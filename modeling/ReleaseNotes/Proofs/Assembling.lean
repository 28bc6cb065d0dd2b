import ReleaseNotes.Assembly.Run
import ReleaseNotes.Proofs.Addition

/-!
# Parts of the assembly

What comes of the parts that the steps of the assembly are made of: changes to the pamphlet, readings
that may fail, sentences and reports. Readings leave the pamphlet alone (`Reads`), and what they come
to does not depend on what has been done before (`Plan.phrase`, `Plan.noteFor`).
-/

namespace ReleaseNotes

open Markup

variable {α β ε : Type}

/-! ### Changes to the pamphlet -/

theorem outcome_edit (change : Editing α) (p : Pamphlet) :
    outcome (edit change) p = ((outcome change p.trees).1.mapError .edit,
      { p with trees := (outcome change p.trees).2 }) := by
  unfold edit
  rw [outcome_bind_of_ok (outcome_get p)]
  unfold outcome
  rcases h : change.run.run p.trees with ⟨_ | _, t⟩ <;> rfl

theorem outcome_edit_of_ok {change : Editing α} {p : Pamphlet} {a : α} {trees : List Node}
    (h : outcome change p.trees = (.ok a, trees)) :
    outcome (edit change) p = (.ok a, { p with trees := trees }) := by
  rw [outcome_edit, h]
  rfl

theorem appendAt_last (e : PageElement) (content new inner : List Node) :
    appendAt [childCount content] new (content ++ [Layout.holder e inner]) =
      content ++ [Layout.holder e (inner ++ new)] :=
  changeChild_mid rfl

theorem outcome_addTree (n : Node) (p : Pamphlet) :
    outcome (addTree n) p = (.ok [childCount p.trees], { p with trees := p.trees ++ [n] }) := rfl

/-- A page that has been begun cannot be begun again. -/
theorem outcome_begin_of_some {p : Pamphlet} {root : Place} (h : p.root? = some root) (title : String) :
    outcome (begin title) p = (.error .begun, p) := by
  unfold begin
  rw [outcome_bind_of_ok (outcome_get p), h]
  rfl

/-- A page that is begun: without its title if a document cannot hold that. -/
theorem outcome_begin_of_none {p : Pamphlet} (h : p.root? = none) (title : String) :
    outcome (begin title) p =
      if isLegalText title then
        (.ok [childCount p.trees, 1],
          { p with
            trees := p.trees ++ [Layout.page title []]
            root? := some [childCount p.trees]
            body? := some [childCount p.trees, 1] })
      else (.error (.edit .illegalText),
        { p with
          trees := p.trees ++ [Layout.holder .page []]
          root? := some [childCount p.trees] }) := by
  have hn (inner : List Node) : nodeAt? (p.trees ++ [Layout.holder .page inner]) [childCount p.trees] =
      some (Layout.holder .page inner) := childAt?_mid rfl
  unfold begin
  rw [outcome_bind_of_ok (outcome_get p), h]
  show outcome (addTree _ >>= _) p = _
  rw [outcome_bind_of_ok (outcome_addTree _ _), outcome_bind_of_ok (outcome_modify _ _), textElement]
  by_cases hl : isLegalText title = true
  · rw [if_pos hl, if_pos hl]
    show outcome ((pure (Layout.holder .title [.text title]) : Building Node) >>= _)
      { p with trees := p.trees ++ [Layout.holder .page []], root? := some [childCount p.trees] } = _
    rw [outcome_bind_of_ok (outcome_pure _ _),
      outcome_bind_of_ok (outcome_edit_of_ok (outcome_addNode (hn []) _)), appendAt_last]
    have hb := outcome_edit_of_ok (p := { p with
      trees := p.trees ++ [Layout.holder .page [Layout.holder .title [.text title]]]
      root? := some [childCount p.trees] }) (outcome_addNode (hn _) (emptyElement PageElement.body.label))
    rw [appendAt_last] at hb
    exact outcome_bind_of_ok hb
  · rw [if_neg hl, if_neg hl]
    rfl

/-- The place of a section is found without a change. -/
theorem outcome_sectionPlace (name : String) (level : HeaderLevel) (p : Pamphlet) :
    outcome (sectionPlace name level) p =
      (match p.root? with
        | none => .error (.edit .noHolder)
        | some root => match headingPlace? p.trees root level name with
          | some heading => .ok heading.next
          | none => .error (PamphletFault.noSection name), p) := by
  rw [sectionPlace, outcome_bind_of_ok (outcome_get p)]
  cases hr : p.root? with
  | none => rfl
  | some root =>
    show outcome (match headingPlace? p.trees root level name with
      | some heading => pure heading.next
      | none => throw (PamphletFault.noSection name)) p =
      (match headingPlace? p.trees root level name with
        | some heading => .ok heading.next
        | none => .error (PamphletFault.noSection name), p)
    cases headingPlace? p.trees root level name <;> rfl

theorem outcome_onPamphlet (change : Building α) (p : Progress) :
    outcome (onPamphlet change) p = ((outcome change p.pamphlet).1.mapError .pamphlet,
      { p with pamphlet := (outcome change p.pamphlet).2 }) := by
  unfold onPamphlet
  rw [outcome_bind_of_ok (outcome_get p)]
  unfold outcome
  rcases h : change.run.run p.pamphlet with ⟨_ | _, t⟩ <;> rfl

/-- Progress with other trees. -/
def Progress.withTrees (p : Progress) (trees : List Node) : Progress :=
  { p with pamphlet := { p.pamphlet with trees := trees } }

theorem outcome_onTrees (change : Editing α) (p : Progress) :
    outcome (onTrees change) p =
      (((outcome change p.pamphlet.trees).1.mapError .edit).mapError .pamphlet,
        p.withTrees (outcome change p.pamphlet.trees).2) := by
  rw [onTrees, outcome_onPamphlet, outcome_edit]
  rfl

theorem outcome_onTrees_of_ok {change : Editing α} {p : Progress} {a : α} {trees : List Node}
    (h : outcome change p.pamphlet.trees = (.ok a, trees)) :
    outcome (onTrees change) p = (.ok a, p.withTrees trees) := by
  rw [outcome_onTrees, h]
  rfl

theorem outcome_onTrees_of_error {change : Editing α} {p : Progress} {fault : EditFault}
    {trees : List Node} (h : outcome change p.pamphlet.trees = (.error fault, trees)) :
    outcome (onTrees change) p = (.error (.pamphlet (.edit fault)), p.withTrees trees) := by
  rw [outcome_onTrees, h]
  rfl

/-! ### Readings -/

@[simp] theorem outcome_orFail_ok (fault : ε → AssemblyFault) (a : α) (p : Progress) :
    outcome (orFail fault (.ok a)) p = (.ok a, p) := rfl

@[simp] theorem outcome_orFail_error (fault : ε → AssemblyFault) (e : ε) (p : Progress) :
    outcome (orFail fault (.error e : Except ε α)) p = (.error (fault e), p) := rfl

theorem outcome_orFail (fault : ε → AssemblyFault) (made : Except ε α) (p : Progress) :
    outcome (orFail fault made) p = (made.mapError fault, p) := by
  cases made <;> rfl

/-- Some work leaves the pamphlet alone. -/
def Reads (work : Assembling α) : Prop :=
  ∀ p, (outcome work p).2.pamphlet = p.pamphlet

theorem Reads.pure (a : α) : Reads (pure a) := fun _ => rfl

theorem Reads.orFail (fault : ε → AssemblyFault) (made : Except ε α) : Reads (orFail fault made) :=
  fun p => by rw [outcome_orFail]

theorem Reads.modify {f : Progress → Progress} (h : ∀ p, (f p).pamphlet = p.pamphlet) :
    Reads (modify f) := h

theorem Reads.bind {work : Assembling α} {next : α → Assembling β} (h : Reads work)
    (hn : ∀ a, Reads (next a)) : Reads (work >>= next) :=
  Keeps.bind h hn

theorem Reads.mapM {f : α → Assembling β} (h : ∀ a, Reads (f a)) (l : List α) : Reads (l.mapM f) :=
  Keeps.mapM h l

theorem Reads.sentence (plan : Plan) (sources : Sources) (template : String) (more : Template.Context) :
    Reads (plan.sentence sources template more) :=
  .bind (.orFail _ _) fun _ => .bind (.orFail _ _) fun _ => .orFail _ _

theorem Reads.readShownItem (noteFile : String) (item : Node) : Reads (readShownItem noteFile item) :=
  .bind (.orFail _ _) fun _ => .bind (.orFail _ _) fun _ =>
    .bind (.bind (.orFail _ _) fun _ => .modify fun _ => rfl) fun _ => .pure _

theorem Reads.readReport (report : Node) (noteFile : String) (isTalkative : Bool) :
    Reads (readReport report noteFile isTalkative) := by
  unfold ReleaseNotes.readReport
  split
  · exact .mapM (Reads.readShownItem noteFile) _
  · exact .orFail _ _

theorem Reads.noteOf (plan : Plan) (issue : Tracker.Issue) : Reads (plan.noteOf issue) :=
  .bind (.modify fun _ => rfl) fun _ => .bind (.orFail _ _) fun _ => .orFail _ _

theorem Reads.environmentText (plan : Plan) (sources : Sources) (field : SummaryField) :
    Reads (plan.environmentText sources field) := by
  refine .bind (.orFail _ _) fun text => ?_
  split
  · exact .sentence plan sources _ _
  · exact .pure text

theorem Reads.blockOf (s : Section) : Reads (blockOf s) := by
  intro p
  rw [ReleaseNotes.blockOf, outcome_onPamphlet, outcome_sectionPlace]

/-! ### What readings come to -/

/-- What a sentence says. -/
def Plan.phrase (plan : Plan) (sources : Sources) (template : String) (more : Template.Context) :
    Except AssemblyFault String := do
  let release ← (sources.summary.text .releaseId).mapError .input
  let previous ← (sources.summary.text .previousReleaseId).mapError .input
  (plan.settings.language.render template
    (sentenceContext plan.settings.wording.product release previous ++ more)).mapError .template

theorem outcome_sentence (plan : Plan) (sources : Sources) (template : String) (more : Template.Context)
    (p : Progress) :
    outcome (plan.sentence sources template more) p = (plan.phrase sources template more, p) := by
  rw [Plan.sentence, Plan.phrase, outcome_bind, outcome_orFail]
  cases sources.summary.text .releaseId with
  | error fault => rfl
  | ok release =>
    show outcome (orFail .input (sources.summary.text .previousReleaseId) >>= _) p = _
    rw [outcome_bind, outcome_orFail]
    cases sources.summary.text .previousReleaseId with
    | error fault => rfl
    | ok previous => exact outcome_orFail _ _ p

/-- The detailed note of an issue, as it is fetched. -/
def Plan.noteFor (plan : Plan) (issue : Tracker.Issue) : Except AssemblyFault (Option Document) := do
  let fetched ← (plan.fetch issue).result.mapError .fetch
  fetched.note?.mapError .network

theorem fst_outcome_noteOf (plan : Plan) (issue : Tracker.Issue) (p : Progress) :
    (outcome (plan.noteOf issue) p).1 = plan.noteFor issue := by
  rw [Plan.noteOf, outcome_bind_of_ok (outcome_modify _ p), outcome_bind, outcome_orFail, Plan.noteFor]
  cases (plan.fetch issue).result with
  | error fault => rfl
  | ok fetched => exact congrArg Prod.fst (outcome_orFail _ _ _)

/-- What a field of the build environment is said to be. -/
def Plan.environmentPhrase (plan : Plan) (sources : Sources) (field : SummaryField) :
    Except AssemblyFault String := do
  let text ← (sources.summary.text field).mapError .input
  if field = .branch then plan.phrase sources plan.settings.wording.branch [(branchName, .plain text)]
  else return text

theorem outcome_environmentText (plan : Plan) (sources : Sources) (field : SummaryField) (p : Progress) :
    outcome (plan.environmentText sources field) p = (plan.environmentPhrase sources field, p) := by
  rw [Plan.environmentText, Plan.environmentPhrase, outcome_bind, outcome_orFail]
  cases sources.summary.text field with
  | error fault => rfl
  | ok text =>
    show outcome (if field = .branch then _ else _) p = (if field = .branch then _ else _, p)
    split
    · exact outcome_sentence _ _ _ _ p
    · rfl

theorem issueOf_of_readShownItem {noteFile : String} {item : Node} {issue : Tracker.Issue} {p p' : Progress}
    (h : outcome (readShownItem noteFile item) p = (.ok issue, p')) :
    Tracker.Issue.ofItem item noteFile = .ok issue := by
  obtain ⟨issue', q, h1, h⟩ := outcome_bind_eq_ok.mp h
  obtain ⟨line, q', -, h⟩ := outcome_bind_eq_ok.mp h
  obtain ⟨_, q'', -, h⟩ := outcome_bind_eq_ok.mp h
  cases hi : Tracker.Issue.ofItem item noteFile with
  | error fault =>
    rw [hi] at h1
    cases h1
  | ok found =>
    rw [hi, outcome_orFail_ok, Prod.mk.injEq, Except.ok.injEq] at h1
    rw [outcome_pure, Prod.mk.injEq, Except.ok.injEq] at h
    rw [h1.1, h.1]

theorem mapM_of_outcome_mapM {f : α → Assembling β} {g : α → Except ε β}
    (hf : ∀ a p b p', outcome (f a) p = (.ok b, p') → g a = .ok b) {l : List α} {k : List β} {p p' : Progress}
    (h : outcome (l.mapM f) p = (.ok k, p')) : l.mapM g = .ok k := by
  induction l generalizing k p p' with
  | nil =>
    cases h
    rfl
  | cons a l ih =>
    rw [List.mapM_cons] at h ⊢
    obtain ⟨b, q, hb, h⟩ := outcome_bind_eq_ok.mp h
    obtain ⟨k', q', hk, h⟩ := outcome_bind_eq_ok.mp h
    cases h
    rw [hf a _ _ _ hb, ih hk]
    rfl

/-- The issues that are read from a report are those of the report, whether they are shown or not. -/
theorem issues_of_readReport {report : Node} {noteFile : String} {isTalkative : Bool}
    {issues : List Tracker.Issue} {p p' : Progress}
    (h : outcome (readReport report noteFile isTalkative) p = (.ok issues, p')) :
    Tracker.issues report noteFile = .ok issues := by
  unfold readReport at h
  split at h
  · exact mapM_of_outcome_mapM (fun _ _ _ _ => issueOf_of_readShownItem) h
  · rw [outcome_orFail] at h
    cases hi : Tracker.issues report noteFile with
    | error fault =>
      rw [hi] at h
      cases h
    | ok found =>
      rw [hi] at h
      cases h
      rfl

/-! ### Runs of steps -/

/-- The progress after some steps have been tried one after the other, whatever came of each. -/
def Plan.attempt (plan : Plan) (sources : Sources) (steps : List Step) (p : Progress) : Progress :=
  steps.foldl (fun p step => (outcome (plan.takeStep sources step) p).2) p

theorem Plan.attempt_append (plan : Plan) (sources : Sources) (steps steps' : List Step) (p : Progress) :
    plan.attempt sources (steps ++ steps') p = plan.attempt sources steps' (plan.attempt sources steps p) :=
  List.foldl_append

/-- The same progress with a pamphlet that has not been begun. -/
def Progress.anew (p : Progress) : Progress :=
  { p with pamphlet := {} }

/-- Shows a step if asked for. -/
def Plan.announce (plan : Plan) (step : Step) : Assembling Unit :=
  if plan.isTalkative then remark (dimmed ("Running " ++ step.label ++ "...")) else pure ()

theorem takeShownStep_eq (plan : Plan) (sources : Sources) (step : Step) :
    plan.takeShownStep sources step = plan.announce step >>= fun _ => plan.takeStep sources step := by
  rw [Plan.takeShownStep, Plan.announce]
  cases plan.isTalkative <;> rfl

theorem Keeps.takeShownStep {γ : Type} {f : Progress → γ} {plan : Plan} {sources : Sources} {step : Step}
    (ha : Keeps f (plan.announce step)) (h : Keeps f (plan.takeStep sources step)) :
    Keeps f (plan.takeShownStep sources step) := by
  rw [takeShownStep_eq]
  exact ha.bind fun _ => h

theorem Reads.announce (plan : Plan) (step : Step) : Reads (plan.announce step) := by
  rw [Plan.announce]
  split
  · exact .bind (.orFail _ _) fun _ => .modify fun _ => rfl
  · exact .pure ()

/-- The steps before a step. -/
def Step.before (step : Step) : List Step :=
  Step.all.takeWhile (· ≠ step)

/-- Takes the steps before a step and begins that step. -/
def Plan.reach (plan : Plan) (sources : Sources) (step : Step) : Assembling Unit := do
  step.before.forM (plan.takeShownStep sources)
  plan.announce step

/-- An assembly that comes to its end has reached every step and has taken it. -/
theorem exists_reach_of_assemble {plan : Plan} {sources : Sources} {p p' : Progress}
    (h : outcome (plan.assemble sources) p = (.ok (), p')) (step : Step) : ∃ after q r,
      Step.all = step.before ++ step :: after ∧ outcome (plan.reach sources step) p = (.ok (), q) ∧
        outcome (plan.takeStep sources step) q = (.ok (), r) ∧
          outcome (after.forM (plan.takeShownStep sources)) r = (.ok (), p') := by
  obtain ⟨after, hall⟩ : ∃ after, Step.all = step.before ++ step :: after := by
    cases step <;> exact ⟨_, rfl⟩
  rw [Plan.assemble, hall, outcome_forM_append] at h
  obtain ⟨_, q, hq, h⟩ := outcome_bind_eq_ok.mp h
  rw [outcome_forM_cons] at h
  obtain ⟨_, r, hr, h⟩ := outcome_bind_eq_ok.mp h
  rw [takeShownStep_eq] at hr
  obtain ⟨_, q', hq', hr⟩ := outcome_bind_eq_ok.mp hr
  exact ⟨after, q', r, hall, outcome_bind_eq_ok.mpr ⟨_, q, hq, hq'⟩, hr, h⟩

/-! ### Rows of bugs -/

theorem adds_addBug (pages : String) (table : Place) (bug : Tracker.Issue) :
    Adds table (addBug pages table bug) [Layout.bugRow (bug.pageUrl pages) bug.key bug.title]
      fun _ => () := by
  have hc (row : Place) : AddsOn row (addCell row >>= fun cell =>
      liftM (link (bug.pageUrl pages) bug.key) >>= fun page => addNode cell page)
      [Layout.holder .column [Layout.linked (bug.pageUrl pages) bug.key]] fun k => row ++ [k] ++ [0] :=
    .inside (r := fun k i => row ++ [k] ++ [i]) fun k => .of_except fun page hp => by
      rw [link_eq_ok hp]
      exact addsOn_addNode _ _
  have hr (row : Place) := (hc row).bind (f := fun _ => addTextCell row bug.title >>= fun _ => pure ())
    fun _ => (addsOn_addTextCell row bug.title).andThen_pure ()
  refine .of_addNode_bind (.inside (r := fun _ _ => ()) fun k => ?_)
  simpa [bind_assoc] using hr (table ++ [k])

/-! ### A small release -/

/-- A report of issues with some keys. -/
def smallReport (keys : List String) : Node :=
  .element (.plain "rss" []) (keys.map fun key => .element (.plain itemLabel [])
    [Node.withText Tracker.keyLabel key, Node.withText titleLabel ("[" ++ key ++ "] Crash")])

/-- The documents of a small release whose overview has some content. -/
def smallSources (overview : List Node) : Sources where
  summary := ⟨.element (.plain "summary" []) (SummaryField.all.map fun field =>
    .element (.plain field.label []) (if field = .overview then overview else [.text "v"]))⟩
  bugs := smallReport ["D-1"]
  notes := smallReport ["D-2", "D-3"]

/-- The detailed note of an issue of the small release. -/
def smallNote : Document where
  root := .element (.plain PageElement.page.label []) [.element (.plain PageElement.body.label [])
    [Node.withText PageElement.paragraph.label "slow", .text "Wait."]]
  isPage := false

/-- A plan for the small release, of which one issue has a detailed note. -/
def smallPlan : Plan where
  settings := { wording :=
    { title := "T", delta := "D", bugFixes := "B", issues := "I", environment := "E", branch := "R" } }
  fetch := fun issue => if issue.key = "D-2" then { result := .ok (.note smallNote) }
    else { result := .ok .absent }

end ReleaseNotes
