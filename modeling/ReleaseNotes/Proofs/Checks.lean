import ReleaseNotes.Proofs.AppendOnly
import ReleaseNotes.Proofs.Contents
import ReleaseNotes.Proofs.Follows
import ReleaseNotes.Proofs.Showing

/-!
# Where an assembly can fail

All that can go wrong with an assembly is a list of checks, each about the documents, the settings, what
is fetched and what is found in place of the block of a section (`Plan.checks`, `Plan.ground`). An
assembly comes to what its checks come to, made in turn (`assemble_eq_inTurn`).
-/

namespace ReleaseNotes

open Markup

variable {α β ε : Type}

/-! ### The checks -/

/-- Something that can be checked: it fails for a reason, or there is nothing to say. -/
abbrev Check := Except AssemblyFault Unit

/-- A check of an addition to the page. -/
def onPage (check : Except EditFault Unit) : Check :=
  (check.mapError .edit).mapError .pamphlet

/-- A sentence makes sense, and a document can hold it. -/
def Plan.utters (plan : Plan) (sources : Sources) (template : String) : Check := do
  let said ← plan.phrase sources template []
  onPage (legal said)

/-- A sentence makes sense, a document can hold it, and it can be put under what was found. -/
def Plan.introduces (plan : Plan) (sources : Sources) (template : String) (found : Option Node) : Check := do
  plan.utters sources template
  onPage (carries found)

/-- A field of the summary is there, and a copy of it can be added to what was found. -/
def Sources.copies (sources : Sources) (field : SummaryField) (found : Option Node) : Check := do
  let fragment ← (sources.summary.fragment field).mapError .input
  inTurn ((takesCopy fragment found).map onPage)

/-- An issue can be read from an item, and shown if it is to be shown. -/
def Plan.reads (plan : Plan) (item : Node) : Check := do
  let issue ← (Tracker.Issue.ofItem item plan.settings.tracker.noteFilename).mapError .input
  if plan.isTalkative then passed issue.shownLine else .ok ()

/-- The issues of a report; none if one of them cannot be read. -/
def Plan.issuesOf (plan : Plan) (report : Node) : List Tracker.Issue :=
  (Tracker.issues report plan.settings.tracker.noteFilename).toOption.getD []

theorem Plan.issuesOf_of_ok {plan : Plan} {report : Node} {issues : List Tracker.Issue}
    (h : Tracker.issues report plan.settings.tracker.noteFilename = .ok issues) : plan.issuesOf report = issues := by
  rw [Plan.issuesOf, h]
  rfl

/-- The issues of a report are what is read from it, if there are any. -/
theorem Plan.issuesOf_eq_nil_or (plan : Plan) (report : Node) : plan.issuesOf report = [] ∨
    Tracker.issues report plan.settings.tracker.noteFilename = .ok (plan.issuesOf report) := by
  cases h : Tracker.issues report plan.settings.tracker.noteFilename with
  | error fault => exact .inl (by rw [Plan.issuesOf, h]; rfl)
  | ok issues => exact .inr (by rw [Plan.issuesOf_of_ok h])

/-- A document can hold the row of a bug. -/
def Plan.lists (plan : Plan) (bug : Tracker.Issue) : Check :=
  onPage (inTurn [legal bug.key, legal (bug.pageUrl plan.settings.tracker.pages), legal bug.title])

/-- A note has a body. -/
def hasBody (key : String) : Option Document → Check
  | none => .ok ()
  | some note => passed ((Tracker.noteBody key note.root).mapError .note)

/-- The note of an issue can be had, if it has one, it has a summary and a body, and a document can hold the
summary. -/
def Plan.tells (plan : Plan) (issue : Tracker.Issue) : Check := do
  let note? ← plan.noteFor issue
  let summary ← (plan.settings.wording.noteSummary issue.key note?).mapError .note
  onPage (inTurn [legal (issue.caption summary), legal issue.sectionName])
  hasBody issue.key note?

/-- A field of the build environment is there, and a document can hold it. -/
def Plan.states (plan : Plan) (sources : Sources) (field : SummaryField) : Check := do
  let text ← plan.environmentPhrase sources field
  onPage (legal text)

/-- What is checked in a step, given what is found for each section. -/
def Plan.stepChecks (plan : Plan) (sources : Sources) (ground : Section → Option Node) : Step → List Check
  | .opening =>
    [plan.utters sources plan.settings.wording.title, plan.utters sources plan.settings.wording.delta]
  | .overview => [sources.copies .overview (ground .overview)]
  | .newFeatures => [sources.copies .newFeatures (ground .newFeatures)]
  | .bugList =>
    (sources.bugs.descendants itemLabel).map plan.reads ++
      [plan.introduces sources plan.settings.wording.bugFixes (ground .bugFixes),
        onPage (writable plan.settings.wording.borderWidth)] ++ (plan.issuesOf sources.bugs).map plan.lists
  | .issuesList =>
    (sources.notes.descendants itemLabel).map plan.reads ++
      [plan.introduces sources plan.settings.wording.issues (ground .issues)] ++
      (plan.issuesOf sources.notes).map plan.tells
  | .environment =>
    plan.introduces sources plan.settings.wording.environment (ground .buildEnvironment) ::
      buildEnvironment.map fun entry => plan.states sources entry.2

/-- What is checked in all steps, given what is found for each section. -/
def Plan.checks (plan : Plan) (sources : Sources) (ground : Section → Option Node) : List Check :=
  Step.all.flatMap (plan.stepChecks sources ground)

/-! ### Parts that follow their checks -/

theorem mapM_mapError {ε' : Type} (f : ε → ε') (g : α → Except ε β) (l : List α) :
    l.mapM (fun a => (g a).mapError f) = (l.mapM g).mapError f := by
  induction l with
  | nil => rfl
  | cons a l ih =>
    rw [List.mapM_cons, List.mapM_cons, ih]
    cases g a with
    | error e => rfl
    | ok b => cases List.mapM g l <;> rfl

theorem inTurn_map_onPage (checks : List (Except EditFault Unit)) :
    inTurn (checks.map onPage) = onPage (inTurn checks) := by
  rw [onPage, ← inTurn_map_mapError, ← inTurn_map_mapError, List.map_map]
  rfl

section Follows

variable {I : Pamphlet → Prop} {made : Except AssemblyFault α} {work : Assembling α}

theorem Reads.follows (h : Reads work) (ho : ∀ p, I p.pamphlet → (outcome work p).1 = made) :
    Follows (fun p => I p.pamphlet) work [passed made] fun a p => I p.pamphlet ∧ made = .ok a := by
  refine .of_passed (fun p hp => ?_) fun p a p' hp hw => ?_
  · rw [ho p hp, inTurn_singleton]
  · have hr := h p
    have hm := ho p hp
    rw [hw] at hr hm
    exact ⟨hr ▸ hp, hm.symm⟩

/-- Work that goes on with what it has read checks what comes of that. -/
theorem Follows.using {P R : Progress → Prop} {Q : β → Progress → Prop} {next : α → Assembling β}
    {more : α → List Check} (h : Follows P work [passed made] fun a p => R p ∧ made = .ok a)
    (hn : ∀ a, Follows R (next a) (more a) Q) :
    Follows P (work >>= next) [made >>= fun a => inTurn (more a)] Q := by
  intro p hp
  have := h p hp
  rw [inTurn_singleton] at this
  revert this
  rw [outcome_bind, inTurn_singleton]
  rcases outcome work p with ⟨fault | a, p'⟩
  · intro hf
    cases made with
    | error fault' => exact (Except.error.inj hf) ▸ rfl
    | ok a => cases hf
  · rintro ⟨-, hr, rfl⟩
    exact hn a p' hr

theorem follows_orFail (fault : ε → AssemblyFault) (read : Except ε α) :
    Follows (fun p => I p.pamphlet) (orFail fault read) [passed (read.mapError fault)]
      fun a p => I p.pamphlet ∧ read.mapError fault = .ok a :=
  (Reads.orFail fault read).follows fun p _ => congrArg Prod.fst (outcome_orFail fault read p)

theorem follows_sentence (plan : Plan) (sources : Sources) (template : String) (more : Template.Context) :
    Follows (fun p => I p.pamphlet) (plan.sentence sources template more)
      [passed (plan.phrase sources template more)]
      fun said p => I p.pamphlet ∧ plan.phrase sources template more = .ok said :=
  (Reads.sentence plan sources template more).follows fun p _ =>
    congrArg Prod.fst (outcome_sentence plan sources template more p)

/-- A pamphlet is another one with other trees, of which `P` holds. -/
def Stands (frame : Pamphlet) (P : List Node → Prop) (p : Pamphlet) : Prop :=
  P p.trees ∧ p = { frame with trees := p.trees }

theorem Stands.of_eq {frame : Pamphlet} {P : List Node → Prop} {p : Pamphlet} (h : P frame.trees)
    (hp : p = frame) : Stands frame P p :=
  ⟨hp ▸ h, hp ▸ rfl⟩

theorem Follows.onTrees {P : List Node → Prop} {change : Editing α} {checks : List (Except EditFault Unit)}
    {Q : α → List Node → Prop} (h : Follows P change checks Q) (frame : Pamphlet) :
    Follows (fun p => Stands frame P p.pamphlet) (onTrees change) (checks.map onPage)
      fun a p => Stands frame (Q a) p.pamphlet := by
  rintro p ⟨hp, hf⟩
  have := h p.pamphlet.trees hp
  revert this
  rw [outcome_onTrees, inTurn_map_onPage]
  rcases outcome change p.pamphlet.trees with ⟨fault | a, trees⟩
  · intro hc
    rw [hc]
    rfl
  · rintro ⟨hc, hq⟩
    rw [hc]
    exact ⟨rfl, hq, congrArg (fun q : Pamphlet => { q with trees := trees }) hf⟩

end Follows

/-! ### Reports -/

section Parts

variable {plan : Plan} {sources : Sources} {I : Pamphlet → Prop} {frame pamphlet : Pamphlet}
  {places : List Place} {block list table : Place} {s : Section}

theorem follows_readShownItem (plan : Plan) (hs : plan.isTalkative = true) (item : Node) :
    Follows (fun p => I p.pamphlet) (readShownItem plan.settings.tracker.noteFilename item) [plan.reads item]
      fun issue p => I p.pamphlet ∧
        Tracker.Issue.ofItem item plan.settings.tracker.noteFilename = .ok issue := by
  intro p hp
  rw [outcome_readShownItem, inTurn_singleton, Plan.reads, hs]
  cases Tracker.Issue.ofItem item plan.settings.tracker.noteFilename with
  | error fault => rfl
  | ok issue =>
    dsimp only
    cases hl : issue.shownLine with
    | error fault =>
      show passed issue.shownLine = _
      rw [hl]
      rfl
    | ok line =>
      refine ⟨?_, hp, rfl⟩
      show passed issue.shownLine = _
      rw [hl]
      rfl

theorem follows_readReport (plan : Plan) (report : Node) :
    Follows (fun p => I p.pamphlet) (readReport report plan.settings.tracker.noteFilename plan.isTalkative)
      ((report.descendants itemLabel).map plan.reads)
      fun issues p => I p.pamphlet ∧
        Tracker.issues report plan.settings.tracker.noteFilename = .ok issues := by
  unfold readReport
  cases hs : plan.isTalkative with
  | true => exact .mapM (follows_readShownItem plan hs) _
  | false =>
    refine ((follows_orFail .input _).congr ?_).mono (fun _ => id) fun issues p h => ⟨h.1, ?_⟩
    · have hr : plan.reads = fun item =>
          passed ((Tracker.Issue.ofItem item plan.settings.tracker.noteFilename).mapError .input) := by
        funext item
        rw [Plan.reads, hs]
        cases Tracker.Issue.ofItem item plan.settings.tracker.noteFilename <;> rfl
      rw [inTurn_singleton, hr, ← passed_mapM, Tracker.issues, mapM_mapError]
    · revert h
      cases Tracker.issues report plan.settings.tracker.noteFilename with
      | error fault => exact fun h => nomatch h.2
      | ok found =>
        intro h
        cases h.2
        rfl

/-! ### Steps -/

theorem utters_eq (plan : Plan) (sources : Sources) (template : String) :
    plan.utters sources template = plan.phrase sources template [] >>= fun said =>
      inTurn [onPage (legal said)] := by
  simp only [inTurn_singleton, Plan.utters]

theorem follows_begin (title : String) :
    Follows (fun p => p.pamphlet = {}) (onPamphlet (begin title)) [onPage (legal title)]
      fun body p => p.pamphlet = begunPamphlet title [] ∧ body = bodyPlace := by
  intro p hp
  rw [outcome_onPamphlet, hp, outcome_begin_of_none rfl, inTurn_singleton, legal]
  cases isLegalText title with
  | false => rfl
  | true => exact ⟨rfl, rfl, rfl⟩

theorem follows_addToc (hb : frame.body ∈ places) :
    Follows (fun p => Stands frame (Offers places) p.pamphlet) (onPamphlet addToc) []
      fun toc p => Stands { frame with toc? := some toc } (Offers (toc :: places)) p.pamphlet := by
  rintro p ⟨ho, hf⟩
  have hbody : p.pamphlet.body = frame.body := by rw [hf]; rfl
  obtain ⟨tag, inner, he⟩ := ho _ hb
  have hlist : outcome (addList frame.body) p.pamphlet.trees = _ := outcome_addNode he _
  rw [outcome_onPamphlet, addToc, outcome_bind_of_ok (outcome_get p.pamphlet), hbody,
    outcome_bind_of_ok (outcome_edit_of_ok hlist)]
  have hf' := congrArg (fun q : Pamphlet => ({ q with
    trees := appendAt frame.body [emptyElement PageElement.list.label] p.pamphlet.trees
    toc? := some (frame.body ++ [childCount inner]) } : Pamphlet)) hf
  exact ⟨rfl, .cons (nodeAt?_appendAt_child he rfl []) (ho.of_grows (.appendAt _ _ _)), hf'⟩

/-- A main section is added without a check: its name is known. -/
theorem follows_openSection (hb : block ∈ places) (ht : list ∈ places) (s : Section) :
    Follows (fun p => Stands frame (Offers places) p.pamphlet) (openSection block list s) [.ok ()]
      fun _ p => Stands frame (Offers places) p.pamphlet := by
  have hl : legal s.title = .ok () := if_pos (isLegalText_title s)
  refine ((follows_addSection hb (List.cons_subset.mpr ⟨ht, List.nil_subset _⟩) .mainSection s.title
    none).onTrees frame |>.congr ?_).finish fun _ _ h => ⟨h.1.tail, h.2⟩
  rw [inTurn_map_onPage]
  show onPage (inTurn [legal s.title, legal s.title, legal s.title]) = _
  rw [hl]
  rfl

theorem follows_openPamphlet (plan : Plan) (sources : Sources) :
    Follows (fun p => p.pamphlet = {}) (plan.openPamphlet sources)
      [plan.utters sources plan.settings.wording.title, plan.utters sources plan.settings.wording.delta]
      fun _ _ => True := by
  have hsections (frame : Pamphlet) (toc banner : Place) :
      Follows (fun p => Stands frame (Offers [toc, banner, bodyPlace]) p.pamphlet)
        (Section.all.forM (openSection bodyPlace toc)) [] fun _ _ => True :=
    ((Follows.forM (follows_openSection (.tail _ (.tail _ (.head _))) (.head _)) Section.all).congr rfl).mono
      (fun _ => id) fun _ _ _ => trivial
  have hdelta (title : String) (banner : Place) :
      Follows (fun p => Stands (begunPamphlet title []) (Offers [banner, bodyPlace]) p.pamphlet)
        (plan.sentence sources plan.settings.wording.delta [] >>= fun delta =>
          onTrees (addParagraph banner delta) >>= fun _ => onPamphlet addToc >>= fun toc =>
            Section.all.forM (openSection bodyPlace toc))
        [plan.utters sources plan.settings.wording.delta] fun _ _ => True := by
    have hbody : (begunPamphlet title []).body ∈ [banner, bodyPlace] := .tail _ (.head _)
    rw [utters_eq]
    exact (follows_sentence plan sources plan.settings.wording.delta []).using fun delta =>
      ((follows_addParagraph (.head _) delta).onTrees _).check fun _ =>
        (follows_addToc hbody).andThen fun toc => hsections _ toc banner
  have htitle : Follows (fun p => p.pamphlet = {}) (plan.openPamphlet sources)
      [plan.phrase sources plan.settings.wording.title [] >>= fun title =>
        inTurn [onPage (legal title), onPage (legal title), plan.utters sources plan.settings.wording.delta]]
      fun _ _ => True := by
    refine (follows_sentence (I := (· = {})) plan sources plan.settings.wording.title []).using fun title =>
      (follows_begin title).check fun body => .of_and ?_
    rintro rfl
    refine Follows.mono (Follows.check ((follows_addHeader (.head _) .banner title).onTrees
      (begunPamphlet title [])) fun banner => hdelta title banner) (fun p hp => .of_eq ?_ hp) fun _ _ => id
    have hbody : nodeAt? (begunPamphlet title []).trees bodyPlace = some (Layout.holder .body []) := rfl
    exact Offers.cons hbody nofun
  refine htitle.congr ?_
  rw [inTurn_singleton, inTurn_pair, utters_eq plan sources plan.settings.wording.title]
  cases plan.phrase sources plan.settings.wording.title [] with
  | error fault => rfl
  | ok title =>
    show inTurn [_, _, _] = (inTurn [_] >>= fun _ => _)
    rw [legal]
    cases isLegalText title with
    | false => rfl
    | true => exact inTurn_singleton _

/-- The block of a section is found without a check. -/
theorem follows_blockOf (hb : ∀ p : Progress, p.pamphlet = pamphlet → (outcome (blockOf s) p).1 = .ok block) :
    Follows (fun p => p.pamphlet = pamphlet) (blockOf s) []
      fun found p => p.pamphlet = pamphlet ∧ found = block := by
  intro p hp
  rw [outcome_blockOf, hb p hp]
  exact ⟨rfl, hp, rfl⟩

theorem follows_copyField {field : SummaryField}
    (hb : ∀ p : Progress, p.pamphlet = pamphlet → (outcome (blockOf s) p).1 = .ok block) :
    Follows (fun p => p.pamphlet = pamphlet) (copyField sources s field)
      [sources.copies field (nodeAt? pamphlet.trees block)] fun _ _ => True := by
  refine (follows_blockOf hb).andThen fun _ => .of_and ?_
  rintro rfl
  refine (follows_orFail (I := (· = pamphlet)) .input (sources.summary.fragment field)).using fun fragment => ?_
  exact ((follows_addCopy_found fragment _).onTrees pamphlet).mono (fun p hp => .of_eq rfl hp)
    fun _ _ _ => trivial

variable (frame places) in
/-- A sentence is put under what was found before anything else. -/
theorem follows_introduced {template : String} {found : Option Node} {rest : Assembling α} {more : List Check}
    {Q : α → Progress → Prop}
    (h : Follows (fun p => Stands frame (Offers (block :: places)) p.pamphlet) rest more Q) :
    Follows (fun p => Stands frame (fun content => nodeAt? content block = found ∧ Offers places content)
        p.pamphlet)
      (plan.sentence sources template [] >>= fun said => onTrees (addParagraph block said) >>= fun _ => rest)
      (plan.introduces sources template found :: more) Q := by
  have hs : Follows
      (fun p => Stands frame (fun content => nodeAt? content block = found ∧ Offers places content) p.pamphlet)
      (plan.sentence sources template [] >>= fun said => onTrees (addParagraph block said))
      [plan.phrase sources template [] >>= fun said => inTurn ([legal said, carries found].map onPage)]
      fun _ p => Stands frame (Offers (block :: places)) p.pamphlet :=
    (follows_sentence plan sources template []).using fun said =>
      (follows_addParagraph_found said).onTrees frame
  rw [← bind_assoc]
  refine (hs.congr ?_).check fun _ => h
  rw [inTurn_singleton, inTurn_singleton, Plan.introduces, Plan.utters]
  cases plan.phrase sources template [] with
  | error fault => rfl
  | ok said => exact congrArg (onPage (legal said) >>= ·) (funext fun _ => inTurn_singleton _)

/-- The border of the table of bugs can be written, and its headings can be held. -/
theorem follows_addBugTable (hb : block ∈ places) (border : Int) :
    Follows (fun p => Stands frame (Offers places) p.pamphlet) (onTrees (addTable block border bugHeadings))
      [onPage (writable border)] fun table p => Stands frame (Offers (table :: places)) p.pamphlet :=
  ((follows_addTable hb border bugHeadings).onTrees frame).congr <| by
    have hh : inTurn (bugHeadings.map legal) = .ok () := by decide
    rw [inTurn_map_onPage, inTurn_cons, hh, inTurn_singleton]
    cases writable border <;> rfl

theorem follows_listBugs
    (hb : ∀ p : Progress, p.pamphlet = pamphlet → (outcome (blockOf .bugFixes) p).1 = .ok block) :
    Follows (fun p => p.pamphlet = pamphlet) (plan.listBugs sources)
      ((sources.bugs.descendants itemLabel).map plan.reads ++
        [plan.introduces sources plan.settings.wording.bugFixes (nodeAt? pamphlet.trees block),
          onPage (writable plan.settings.wording.borderWidth)] ++ (plan.issuesOf sources.bugs).map plan.lists)
      fun _ _ => True := by
  refine (follows_blockOf hb).andThen fun _ => .of_and ?_
  rintro rfl
  rw [List.append_assoc]
  refine (follows_readReport (I := (· = pamphlet)) plan sources.bugs).bind fun bugs => .of_and fun hbugs => ?_
  rw [Plan.issuesOf_of_ok hbugs]
  refine Follows.mono (follows_introduced pamphlet [] ?_)
    (fun p hp => .of_eq ⟨rfl, nofun⟩ hp) fun _ _ => id
  refine (follows_addBugTable (.head _) _).check fun table => ?_
  refine Follows.mono (.forM (fun bug => ?_) bugs) (fun _ => id) fun _ _ _ => trivial
  exact ((follows_addBug (.head _) _ bug).onTrees pamphlet).congr
    ((inTurn_map_onPage _).trans (inTurn_singleton _).symm)

theorem follows_fillIssue (hb : block ∈ places) (issue : Tracker.Issue) (note? : Option Document) :
    Follows (fun p => Stands frame (Offers places) p.pamphlet) (fillIssue issue block note?)
      [hasBody issue.key note?] fun _ p => Stands frame (Offers places) p.pamphlet := by
  cases note? with
  | none => exact fun p hp => ⟨rfl, hp⟩
  | some note =>
    exact (follows_orFail .note _).check fun body => .of_and fun _ => (follows_addCopy hb body).onTrees frame

/-- The section of an issue is entered in the table of contents and in a list, and then added. -/
theorem follows_addIssueSection (hb : block ∈ places) (ht : frame.toc ∈ places) (hl : list ∈ places)
    (name caption : String) :
    Follows (fun p => Stands frame (Offers places) p.pamphlet)
      (onTrees (addSection block .issueDetail name [frame.toc, list] (some caption)))
      [onPage (inTurn [legal caption, legal name])]
      fun details p => Stands frame (Offers (details :: places)) p.pamphlet := by
  have htocs : [frame.toc, list] ⊆ places :=
    List.cons_subset.mpr ⟨ht, List.cons_subset.mpr ⟨hl, List.nil_subset _⟩⟩
  refine ((follows_addSection hb htocs .issueDetail name (some caption)).onTrees frame).congr ?_
  rw [inTurn_map_onPage, inTurn_singleton]
  show onPage (inTurn [legal caption, legal name, legal caption, legal name, legal name]) = _
  unfold legal
  cases isLegalText caption <;> cases isLegalText name <;> rfl

theorem tells_eq (plan : Plan) (issue : Tracker.Issue) :
    plan.tells issue = plan.noteFor issue >>= fun note? =>
      inTurn [(plan.settings.wording.noteSummary issue.key note?).mapError .note >>= fun summary =>
        inTurn [onPage (inTurn [legal (issue.caption summary), legal issue.sectionName]),
          hasBody issue.key note?]] := by
  simp only [inTurn_singleton, inTurn_pair, Plan.tells]

theorem follows_addIssue (hb : block ∈ places) (ht : frame.toc ∈ places) (hl : list ∈ places)
    (issue : Tracker.Issue) :
    Follows (fun p => Stands frame (Offers places) p.pamphlet) (plan.addIssue block list issue)
      [plan.tells issue] fun _ p => Stands frame (Offers places) p.pamphlet := by
  rw [tells_eq]
  refine Follows.using ((Reads.noteOf plan issue).follows fun p _ => fst_outcome_noteOf plan issue p)
    fun note? => (follows_orFail .note _).using fun summary =>
      ((follows_addNode hb _ _).onTrees frame).andThen fun line => .get fun p hp => ?_
  have htoc : p.pamphlet.toc = frame.toc := by rw [hp.2]; rfl
  show Follows _ (onTrees (addSection block .issueDetail issue.sectionName [p.pamphlet.toc, list]
    (some (issue.caption summary))) >>= fun details => fillIssue issue details note?) _ _
  rw [htoc]
  refine Follows.check (follows_addIssueSection (.tail _ hb) (.tail _ ht) (.tail _ hl) _ _) fun details => ?_
  exact (follows_fillIssue (.head _) issue note?).mono (fun _ => id) fun _ p h => ⟨h.1.tail.tail, h.2⟩

/-- The section of the issues is begun once all items of the report are read and the sentence is said. -/
theorem follows_openIssues (htoc : Offers [pamphlet.toc] pamphlet.trees)
    (hb : ∀ p : Progress, p.pamphlet = pamphlet → (outcome (blockOf .issues) p).1 = .ok block) :
    Follows (fun p => p.pamphlet = pamphlet) (plan.openIssues sources)
      ((sources.notes.descendants itemLabel).map plan.reads ++
        [plan.introduces sources plan.settings.wording.issues (nodeAt? pamphlet.trees block)])
      fun opened p => Stands pamphlet (Offers [opened.2.1, opened.1, pamphlet.toc]) p.pamphlet ∧
        opened.2.2 = plan.issuesOf sources.notes := by
  refine (follows_blockOf hb).andThen fun _ => .of_and ?_
  rintro rfl
  refine (follows_readReport (I := (· = pamphlet)) plan sources.notes).bind fun issues =>
    .of_and fun hissues => ?_
  refine Follows.mono (follows_introduced pamphlet [pamphlet.toc] ?_)
    (fun p hp => .of_eq ⟨rfl, htoc⟩ hp) fun _ _ => id
  exact ((follows_addNode (.head _) _ _).onTrees pamphlet).finish
    fun list p h => ⟨h, (Plan.issuesOf_of_ok hissues).symm⟩

theorem follows_listIssues (htoc : Offers [pamphlet.toc] pamphlet.trees)
    (hb : ∀ p : Progress, p.pamphlet = pamphlet → (outcome (blockOf .issues) p).1 = .ok block) :
    Follows (fun p => p.pamphlet = pamphlet) (plan.listIssues sources)
      ((sources.notes.descendants itemLabel).map plan.reads ++
        [plan.introduces sources plan.settings.wording.issues (nodeAt? pamphlet.trees block)] ++
        (plan.issuesOf sources.notes).map plan.tells)
      fun _ _ => True := by
  rw [listIssues_eq]
  refine (follows_openIssues htoc hb).bind fun opened => .of_and fun hissues => ?_
  rw [hissues]
  exact Follows.mono (.forM (fun issue => follows_addIssue (.tail _ (.head _)) (.tail _ (.tail _ (.head _)))
    (.head _) issue) _) (fun _ => id) fun _ _ _ => trivial

theorem follows_addField (hl : list ∈ places) (entry : Headline × SummaryField) :
    Follows (fun p => Stands frame (Offers places) p.pamphlet) (plan.addField sources list entry)
      [plan.states sources entry.2] fun _ p => Stands frame (Offers places) p.pamphlet := by
  have hlabel : onPage (legal entry.1.text) = .ok () := by cases entry.1 <;> decide
  have hs : plan.states sources entry.2 = plan.environmentPhrase sources entry.2 >>= fun text =>
      inTurn ([legal entry.1.text, legal text].map onPage) := by
    rw [Plan.states]
    refine congrArg (_ >>= ·) (funext fun text => ?_)
    rw [List.map_cons, inTurn_cons, hlabel, ok_bind, List.map_singleton, inTurn_singleton]
  rw [hs]
  refine Follows.using ((Reads.environmentText plan sources entry.2).follows fun p _ =>
    congrArg Prod.fst (outcome_environmentText plan sources entry.2 p)) fun text => ?_
  exact Follows.finish ((follows_addLabelled hl entry.1.text text).onTrees frame) fun _ _ => id

theorem follows_listEnvironment
    (hb : ∀ p : Progress, p.pamphlet = pamphlet → (outcome (blockOf .buildEnvironment) p).1 = .ok block) :
    Follows (fun p => p.pamphlet = pamphlet) (plan.listEnvironment sources)
      (plan.introduces sources plan.settings.wording.environment (nodeAt? pamphlet.trees block) ::
        buildEnvironment.map fun entry => plan.states sources entry.2) fun _ _ => True := by
  refine (follows_blockOf hb).andThen fun _ => .of_and ?_
  rintro rfl
  refine Follows.mono (follows_introduced pamphlet [] ?_)
    (fun p hp => .of_eq ⟨rfl, nofun⟩ hp) fun _ _ => id
  refine ((follows_addNode (.head _) _ _).onTrees pamphlet).andThen fun list => ?_
  exact Follows.mono (.forM (follows_addField (.head _)) buildEnvironment) (fun _ => id) fun _ _ _ => trivial

end Parts

/-! ### The whole assembly -/

section Assembly

variable {plan : Plan} {sources : Sources} {start p : Progress} {s : Section}

/-- What is found in place of the block of a section once an assembly comes to its step. -/
def Plan.ground (plan : Plan) (sources : Sources) (start : Progress) (s : Section) : Option Node :=
  let p := (outcome (plan.reach sources s.step) start.anew).2
  (outcome (blockOf s) p).1.toOption.bind (nodeAt? p.pamphlet.trees)

/-- That a step is taken can be shown. -/
theorem outcome_announce (plan : Plan) (step : Step) (p : Progress) :
    ∃ p', p'.silent = p.silent ∧ outcome (plan.announce step) p = (.ok (), p') := by
  cases h : plan.isTalkative with
  | true =>
    have hp : plan.openly = plan := by rw [Plan.openly, ← h]
    rw [← hp]
    exact outcome_announce_openly plan step p
  | false => exact ⟨p, rfl, by rw [Plan.announce, h]; rfl⟩

/-- What the opening has added is there ever after. -/
theorem growsTo_of_reach (h : outcome (plan.reach sources s.step) start.anew = (.ok (), p)) :
    ∃ title delta, (Draft.opened title delta).pamphlet.GrowsTo p.pamphlet := by
  rw [Plan.reach, before_step] at h
  obtain ⟨_, q, hq, ha⟩ := outcome_bind_eq_ok.mp h
  rw [outcome_forM_cons] at hq
  obtain ⟨_, q', ho, hrest⟩ := outcome_bind_eq_ok.mp hq
  obtain ⟨title, delta, -, -, hp⟩ := exists_opened_of_shown ho
  have h1 := onlyAdds_forM_takeShownStep plan sources (s.earlier.map Section.step) q'
  have h2 := (Reads.announce plan s.step).onlyAdds q
  rw [hrest, hp] at h1
  rw [ha] at h2
  exact ⟨title, delta, h1.trans h2⟩

/-- Every section is found somewhere: its heading is in the page. -/
theorem exists_block_of_reach (h : outcome (plan.reach sources s.step) start.anew = (.ok (), p)) :
    ∃ block, (outcome (blockOf s) p).1 = .ok block := by
  obtain ⟨title, delta, hg, hr⟩ := growsTo_of_reach h
  obtain ⟨n, hn, hgn⟩ := hg.nodeAt? (nodeAt?_heading (Draft.opened title delta) s)
  have hhead : isHeader .mainSection s.title n = true :=
    isHeader_of_growsTo hgn ((isHeader_heading s.title).trans (beq_self_eq_true _))
  have hne : pagePlace ≠ [] := List.cons_ne_nil 0 []
  obtain ⟨page, hpage⟩ := exists_nodeAt?_of_prefix hne
    (show pagePlace <+: s.headingPlace from ⟨[1, 2 * s.earlier.length + 3], rfl⟩) hn
  change nodeAt? p.pamphlet.trees (pagePlace ++ [1, 2 * s.earlier.length + 3]) = some n at hn
  rw [nodeAt?_append hne (List.cons_ne_nil _ _), hpage] at hn
  rw [blockOf, outcome_onPamphlet, outcome_sectionPlace, hr pagePlace rfl]
  dsimp only
  rw [headingPlace?_eq hpage]
  cases hf : firstHeader? .mainSection s.title (placedFrom pagePlace 0 page.content) with
  | some heading => exact ⟨heading.next, rfl⟩
  | none =>
    exact absurd hhead (List.any_eq_false.mp (firstHeader?_eq_none_iff.mp hf) n (mem_familyOfAll_of_nodeAt? hn))

/-- The block of a section is found where its ground is said to be. -/
theorem exists_ground_of_reach (h : outcome (plan.reach sources s.step) start.anew = (.ok (), p)) :
    ∃ block, (∀ q : Progress, q.pamphlet = p.pamphlet → (outcome (blockOf s) q).1 = .ok block) ∧
      plan.ground sources start s = nodeAt? p.pamphlet.trees block := by
  obtain ⟨block, hblock⟩ := exists_block_of_reach h
  refine ⟨block, fun q hq => ?_, ?_⟩
  · rw [← hblock, blockOf, outcome_onPamphlet, outcome_onPamphlet, hq]
  · rw [Plan.ground, h]
    dsimp only
    rw [hblock]
    rfl

/-- The table of contents is there once an assembly comes to the issues. -/
theorem offers_toc_of_reach (h : outcome (plan.reach sources .issuesList) start.anew = (.ok (), p)) :
    Offers [p.pamphlet.toc] p.pamphlet.trees := by
  have htabled := tabled_of_reach h
  rw [Pamphlet.toc, show p.pamphlet.toc? = _ from htabled.toc?_eq]
  exact .cons (htabled.sheltered _ (.head _)).nodeAt?_eq fun _ hq => (List.not_mem_nil hq).elim

/-- The step of a section follows its checks. -/
theorem follows_takeStep (h : outcome (plan.reach sources s.step) start.anew = (.ok (), p)) :
    Follows (fun q => q.pamphlet = p.pamphlet) (plan.takeStep sources s.step)
      (plan.stepChecks sources (plan.ground sources start) s.step) fun _ _ => True := by
  obtain ⟨block, hb, hg⟩ := exists_ground_of_reach h
  cases s with
  | overview =>
    rw [Section.step, Plan.stepChecks, hg]
    exact follows_copyField hb
  | newFeatures =>
    rw [Section.step, Plan.stepChecks, hg]
    exact follows_copyField hb
  | bugFixes =>
    rw [Section.step, Plan.stepChecks, hg]
    exact follows_listBugs hb
  | issues =>
    rw [Section.step, Plan.stepChecks, hg]
    exact follows_listIssues (offers_toc_of_reach h) hb
  | buildEnvironment =>
    rw [Section.step, Plan.stepChecks, hg]
    exact follows_listEnvironment hb

/-- The steps that come next come to what their checks come to. -/
theorem forM_eq_inTurn {before after later : List Step} (hall : Step.all = before ++ (after ++ later))
    (h : outcome (before.forM (plan.takeShownStep sources)) start.anew = (.ok (), p)) :
    (outcome (after.forM (plan.takeShownStep sources)) p).1 =
      inTurn (after.flatMap (plan.stepChecks sources (plan.ground sources start))) := by
  induction after generalizing before p with
  | nil => rfl
  | cons step after ih =>
    obtain ⟨p1, hp1, ha⟩ := outcome_announce plan step p
    have hpamphlet := pamphlet_eq_of_silent hp1
    have hreach : outcome (plan.reach sources step) start.anew = (.ok (), p1) := by
      rw [Plan.reach, Step.before_eq hall]
      exact outcome_bind_eq_ok.mpr ⟨_, p, h, ha⟩
    have hstep : Follows (fun q => q.pamphlet = p1.pamphlet) (plan.takeStep sources step)
        (plan.stepChecks sources (plan.ground sources start) step) fun _ _ => True := by
      cases step with
      | opening =>
        obtain rfl : before = [] := (Step.before_eq hall).symm
        cases h
        rw [hpamphlet]
        exact follows_openPamphlet plan sources
      | overview => exact follows_takeStep (s := .overview) hreach
      | newFeatures => exact follows_takeStep (s := .newFeatures) hreach
      | bugList => exact follows_takeStep (s := .bugFixes) hreach
      | issuesList => exact follows_takeStep (s := .issues) hreach
      | environment => exact follows_takeStep (s := .buildEnvironment) hreach
    have hf := hstep p1 rfl
    rw [outcome_forM_cons, takeShownStep_eq, bind_assoc, outcome_bind_of_ok ha, outcome_bind,
      List.flatMap_cons, inTurn_append]
    revert hf
    rcases ht : outcome (plan.takeStep sources step) p1 with ⟨fault | u, p2⟩
    · intro hf
      rw [hf]
      rfl
    · rintro ⟨hf, -⟩
      rw [hf]
      refine ih (hall.trans (List.append_cons before step (after ++ later))) ?_
      rw [outcome_forM_append, outcome_bind_of_ok h, outcome_forM_cons, takeShownStep_eq, bind_assoc,
        outcome_bind_of_ok ha, outcome_bind_of_ok ht]
      rfl

/-- **An assembly comes to what its checks come to**, made one after the other: it fails where the first
of them fails, and for the same reason. -/
theorem assemble_eq_inTurn (plan : Plan) (sources : Sources) (start : Progress) :
    (outcome (plan.assemble sources) start.anew).1 =
      inTurn (plan.checks sources (plan.ground sources start)) := by
  have hall : Step.all = [] ++ (Step.all ++ []) := rfl
  exact forM_eq_inTurn hall rfl

/-- A step is reached if all that is checked before it passes. -/
theorem exists_reach_of_checks (step : Step)
    (h : inTurn (step.before.flatMap (plan.stepChecks sources (plan.ground sources start))) = .ok ()) :
    ∃ p, outcome (plan.reach sources step) start.anew = (.ok (), p) := by
  obtain ⟨later, hall⟩ : ∃ later, Step.all = [] ++ (step.before ++ later) := by
    cases step <;> exact ⟨_, rfl⟩
  have ho : (outcome (step.before.forM (plan.takeShownStep sources)) start.anew).1 = .ok () :=
    (forM_eq_inTurn hall rfl).trans h
  obtain ⟨p, -, ha⟩ := outcome_announce plan step
    (outcome (step.before.forM (plan.takeShownStep sources)) start.anew).2
  exact ⟨p, outcome_bind_eq_ok.mpr ⟨(), _, Prod.ext ho rfl, ha⟩⟩

end Assembly

end ReleaseNotes
