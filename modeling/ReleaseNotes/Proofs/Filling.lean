import ReleaseNotes.Proofs.Draft

/-!
# What the sections come to hold

What the block of each section holds in the end is said by the plan and the documents alone
(`Plan.filling`), without a page and without a search. A step that finds its section where it was
opened, and that comes to its end, leaves a draft in which the block of that section holds exactly
that (`exists_filling_of_takeStep`).
-/

namespace ReleaseNotes

open Markup

variable {α : Type} {d : Draft} {s t : Section} {p p' : Progress} {content : List Node} {here : Place}

/-! ### The contents of the sections -/

/-- The tags around what stands directly in the block of a section, nearest first. -/
def blockTags : List Tag :=
  [.plain PageElement.block.label [], .plain PageElement.body.label [], .plain PageElement.page.label []]

/-- The tags around what stands directly in the section of an issue, nearest first. -/
def detailTags : List Tag :=
  .plain PageElement.block.label [] :: blockTags

/-- The copy of a field of the summary. -/
def Sources.fieldCopy (sources : Sources) (field : SummaryField) : Except AssemblyFault (List Node) := do
  let fragment ← (sources.summary.fragment field).mapError .input
  return copyUnder blockTags fragment

/-- A number as it is written, if it can be. -/
def written : Option String → Except AssemblyFault String
  | some text => .ok text
  | none => .error (.pamphlet (.edit .oversized))

/-- The table of fixed bugs under its paragraph. -/
def Plan.bugContent (plan : Plan) (sources : Sources) : Except AssemblyFault (List Node) := do
  let bugs ← (Tracker.issues sources.bugs plan.settings.tracker.noteFilename).mapError .input
  let intro ← plan.phrase sources plan.settings.wording.bugFixes []
  let width ← written (Text.decimal? plan.settings.wording.borderWidth)
  return [Layout.paragraph intro, Layout.table width bugHeadings
    (bugs.map fun bug => Layout.bugRow (bug.pageUrl plan.settings.tracker.pages) bug.key bug.title)]

/-- What is told of an issue. -/
structure Told where
  /-- The name of its section. -/
  name : String
  /-- The caption of its entries. -/
  caption : String
  /-- The copy of its detailed note; nothing if it has none. -/
  details : List Node

/-- The name and the caption of the entries for an issue. -/
def Told.entry (told : Told) : String × String :=
  (told.name, told.caption)

/-- The section of an issue under a line. -/
def Told.nodes (told : Told) : List Node :=
  Layout.holder .line [] :: Layout.headed .issueDetail told.name told.details

/-- The copy of a detailed note. -/
def noteCopy (issue : Tracker.Issue) : Option Document → Except AssemblyFault (List Node)
  | none => .ok []
  | some note => do
    let body ← (Tracker.noteBody issue.key note.root).mapError .note
    return copyUnder detailTags body

/-- What is told of an issue. -/
def Plan.tell (plan : Plan) (issue : Tracker.Issue) : Except AssemblyFault Told := do
  let note? ← plan.noteFor issue
  let summary ← (plan.settings.wording.noteSummary issue.key note?).mapError .note
  let details ← noteCopy issue note?
  return ⟨issue.sectionName, issue.caption summary, details⟩

/-- What is told of all issues of the report, in order. -/
def Plan.tellAll (plan : Plan) (sources : Sources) : Except AssemblyFault (List Told) := do
  let issues ← (Tracker.issues sources.notes plan.settings.tracker.noteFilename).mapError .input
  issues.mapM plan.tell

/-- The issues under a paragraph and a list of them. -/
def issuesContent (intro : String) (told : List Told) : List Node :=
  [Layout.paragraph intro, Layout.holder .list (Layout.entries (told.map Told.entry))] ++
    told.flatMap Told.nodes

/-- A line of the build environment. -/
def Plan.environmentItem (plan : Plan) (sources : Sources) (entry : Headline × SummaryField) :
    Except AssemblyFault Node := do
  let text ← plan.environmentPhrase sources entry.2
  return Layout.labelled entry.1.text text

/-- The list of the build environment under its paragraph. -/
def Plan.environmentContent (plan : Plan) (sources : Sources) : Except AssemblyFault (List Node) := do
  let intro ← plan.phrase sources plan.settings.wording.environment []
  let items ← buildEnvironment.mapM (plan.environmentItem sources)
  return [Layout.paragraph intro, Layout.holder .list items]

/-- What the block of a section comes to hold, and the entries that come with it. -/
def Plan.filling (plan : Plan) (sources : Sources) :
    Section → Except AssemblyFault (List Node × List (String × String))
  | .overview => do return (← sources.fieldCopy .overview, [])
  | .newFeatures => do return (← sources.fieldCopy .newFeatures, [])
  | .bugFixes => do return (← plan.bugContent sources, [])
  | .issues => do
    let intro ← plan.phrase sources plan.settings.wording.issues []
    let told ← plan.tellAll sources
    return (issuesContent intro told, told.map Told.entry)
  | .buildEnvironment => do return (← plan.environmentContent sources, [])

/-- The step that fills a section. -/
def Section.step : Section → Step
  | .overview => .overview
  | .newFeatures => .newFeatures
  | .bugFixes => .bugList
  | .issues => .issuesList
  | .buildEnvironment => .environment

/-! ### Work in a block -/

theorem Draft.pamphlet_withTrees {d' : Draft} (hp : p.pamphlet = d.pamphlet) :
    (p.withTrees [d'.page]).pamphlet = d'.pamphlet := by
  rw [Progress.withTrees, hp]
  rfl

theorem Draft.trees_eq (hp : p.pamphlet = d.pamphlet) : p.pamphlet.trees = [d.page] := by
  rw [hp]
  rfl

theorem appendAt_block (d : Draft) (s : Section) (new : List Node) :
    appendAt s.block new [d.page] = [(d.fill s (d.blocks s ++ new)).page] :=
  changeAt_block d s _

/-- What an addition that comes to a result has done. -/
theorem Adds.eq_ok {work : Editing α} {new : List Node} {result : Nat → α} {a : α}
    (h : Adds here work new result) (ho : outcome (onTrees work) p = (.ok a, p')) :
    ∃ tag inner, nodeAt? p.pamphlet.trees here = some (.element tag inner) ∧ a = result (childCount inner) ∧
      p' = p.withTrees (appendAt here new p.pamphlet.trees) := by
  rcases h p.pamphlet.trees with ⟨tag, inner, he, hok⟩ | ⟨fault, content, hf, -⟩
  · rw [outcome_onTrees_of_ok hok] at ho
    cases ho
    exact ⟨tag, inner, he, rfl, rfl⟩
  · rw [outcome_onTrees_of_error hf] at ho
    cases ho

/-- An addition in the block of a section. -/
theorem Adds.eq_ok_of_draft {work : Editing α} {new : List Node} {result : Nat → α} {a : α}
    (h : Adds s.block work new result) (hp : p.pamphlet = d.pamphlet)
    (ho : outcome (onTrees work) p = (.ok a, p')) :
    a = result (childCount (d.blocks s)) ∧ p'.pamphlet = (d.fill s (d.blocks s ++ new)).pamphlet := by
  obtain ⟨tag, inner, he, ha, rfl⟩ := h.eq_ok ho
  rw [Draft.trees_eq hp] at he
  rw [nodeAt?_block, Option.some.injEq, Layout.holder, Node.element.injEq] at he
  rw [Draft.trees_eq hp, appendAt_block, he.2]
  exact ⟨ha, Draft.pamphlet_withTrees hp⟩

/-- An addition to something in the block of a section. -/
theorem Adds.eq_ok_in_block {work : Editing α} {new : List Node} {result : Nat → α} {a : α} {q : Place}
    (h : Adds (s.block ++ q) work new result) (hq : q ≠ []) (hp : p.pamphlet = d.pamphlet)
    (ho : outcome (onTrees work) p = (.ok a, p')) :
    p'.pamphlet = (d.fill s (appendAt q new (d.blocks s))).pamphlet := by
  obtain ⟨tag, inner, he, -, rfl⟩ := h.eq_ok ho
  rw [Draft.trees_eq hp, appendAt, changeAt_in_block d s hq]
  exact Draft.pamphlet_withTrees hp

/-- Reading changes no draft. -/
theorem Reads.pamphlet_eq {work : Assembling α} {a : α} (h : Reads work) (hp : p.pamphlet = d.pamphlet)
    (ho : outcome work p = (.ok a, p')) : p'.pamphlet = d.pamphlet := by
  have := h p
  rw [ho] at this
  exact this.trans hp

theorem orFail_eq_ok {ε : Type} {fault : ε → AssemblyFault} {made : Except ε α} {a : α}
    (h : outcome (orFail fault made) p = (.ok a, p')) : made = .ok a ∧ p = p' := by
  rw [outcome_orFail] at h
  cases made with
  | error e => cases h
  | ok b =>
    cases h
    exact ⟨rfl, rfl⟩

theorem sentence_eq_ok {plan : Plan} {sources : Sources} {template : String} {more : Template.Context}
    {said : String} (h : outcome (plan.sentence sources template more) p = (.ok said, p')) :
    plan.phrase sources template more = .ok said ∧ p = p' := by
  rwa [outcome_sentence, Prod.mk.injEq] at h

theorem blockOf_eq_ok {block : Place} (hs : (outcome (blockOf s) p).1 = .ok s.block)
    (h : outcome (blockOf s) p = (.ok block, p')) : s.block = block ∧ p = p' := by
  rwa [outcome_blockOf, hs, Prod.mk.injEq, Except.ok.injEq] at h

/-! ### The steps -/

theorem tagsAround_block (d : Draft) (s : Section) :
    Tag.plain PageElement.block.label [] :: tagsAround [d.page] s.block = blockTags := by
  cases s <;> rfl

theorem exists_filling_of_copyField {sources : Sources} {field : SummaryField} {u : Unit}
    (hp : p.pamphlet = d.pamphlet) (hb : d.blocks s = []) (hs : (outcome (blockOf s) p).1 = .ok s.block)
    (h : outcome (copyField sources s field) p = (.ok u, p')) :
    ∃ content, sources.fieldCopy field = .ok content ∧ p'.pamphlet = (d.fill s content).pamphlet := by
  obtain ⟨block, q, hblock, h1⟩ := outcome_bind_eq_ok.mp h
  obtain ⟨rfl, rfl⟩ := blockOf_eq_ok hs hblock
  obtain ⟨fragment, q', hread, h2⟩ := outcome_bind_eq_ok.mp h1
  obtain ⟨hf, rfl⟩ := orFail_eq_ok hread
  refine ⟨copyUnder blockTags fragment, by rw [Sources.fieldCopy, mapError_eq_ok_iff.mpr hf]; rfl, ?_⟩
  have he := nodeAt?_block d s
  rw [outcome_onTrees, Draft.trees_eq hp, outcome_addCopy he, changeAt_block, tagsAround_block, hb] at h2
  cases h2
  exact Draft.pamphlet_withTrees hp

/-- What is added to an empty block after its paragraph stands second in it. -/
theorem introduced_eq_ok {work : Editing Place} {n : Node} {intro : String} {q : Progress} {paragraph made : Place}
    (hw : Adds s.block work [n] fun k => s.block ++ [k]) (hp : p.pamphlet = d.pamphlet) (hb : d.blocks s = [])
    (hparagraph : outcome (onTrees (addParagraph s.block intro)) p = (.ok paragraph, q))
    (ho : outcome (onTrees work) q = (.ok made, p')) :
    made = s.block ++ [1] ∧ p'.pamphlet = (d.fill s [Layout.paragraph intro, n]).pamphlet := by
  obtain ⟨-, hq⟩ := (adds_addParagraph _ intro).eq_ok_of_draft hp hparagraph
  rw [hb, List.nil_append] at hq
  obtain ⟨hmade, hp'⟩ := hw.eq_ok_of_draft hq ho
  rw [blocks_fill] at hmade hp'
  rw [fill_fill] at hp'
  exact ⟨hmade, hp'⟩

/-- A loop whose every turn adds a node to the second element of a block. -/
theorem forM_eq_ok_in_block {β : Type} {f : β → Assembling Unit} {g : β → Except AssemblyFault Node}
    (hf : ∀ b (d : Draft) p p' u, p.pamphlet = d.pamphlet → outcome (f b) p = (.ok u, p') →
      ∃ n, g b = .ok n ∧ p'.pamphlet = (d.fill s (appendAt [1] [n] (d.blocks s))).pamphlet)
    {l : List β} {u : Unit} {n : Node} {tag : Tag} {inner : List Node} (hn : n.isText = false)
    (hp : p.pamphlet = d.pamphlet) (hb : d.blocks s = [n, .element tag inner])
    (h : outcome (l.forM f) p = (.ok u, p')) :
    ∃ added, l.mapM g = .ok added ∧
      p'.pamphlet = (d.fill s [n, .element tag (inner ++ added)]).pamphlet := by
  induction l generalizing d p inner with
  | nil =>
    cases h
    exact ⟨[], rfl, by rw [List.append_nil, fill_self hb, hp]⟩
  | cons b l ih =>
    rw [outcome_forM_cons] at h
    obtain ⟨_, q, hq, h⟩ := outcome_bind_eq_ok.mp h
    obtain ⟨m, hm, hpq⟩ := hf b d p q _ hp hq
    have ha : appendAt [1] [m] (d.blocks s) = [n, .element tag (inner ++ [m])] := by
      rw [hb]
      exact (changeChild_cons_succ hn).trans (congrArg _ (changeChild_cons_zero rfl))
    rw [ha] at hpq
    obtain ⟨added, hadded, hp'⟩ := ih hpq (blocks_fill _ _ _) h
    refine ⟨m :: added, by rw [List.mapM_cons, hm, hadded]; rfl, ?_⟩
    rw [hp', fill_fill, List.append_assoc]
    rfl

theorem forM_addBug_eq_ok {pages : String} {bugs : List Tracker.Issue} {u : Unit} {n : Node} {tag : Tag}
    {inner : List Node} (hn : n.isText = false) (hp : p.pamphlet = d.pamphlet)
    (hb : d.blocks s = [n, .element tag inner])
    (h : outcome (bugs.forM fun bug => onTrees (addBug pages (s.block ++ [1]) bug)) p = (.ok u, p')) :
    p'.pamphlet = (d.fill s [n, .element tag (inner ++
      bugs.map fun bug => Layout.bugRow (bug.pageUrl pages) bug.key bug.title)]).pamphlet := by
  obtain ⟨rows, hrows, hp'⟩ := forM_eq_ok_in_block
    (f := fun bug => onTrees (addBug pages (s.block ++ [1]) bug))
    (g := fun bug => pure (Layout.bugRow (bug.pageUrl pages) bug.key bug.title))
    (fun bug d p p' u hp ho => ⟨_, rfl, (adds_addBug _ _ bug).eq_ok_in_block (List.cons_ne_nil 1 []) hp ho⟩)
    hn hp hb h
  rw [List.mapM_pure] at hrows
  rw [hp', ← Except.ok.inj hrows]

theorem exists_filling_of_listBugs {plan : Plan} {sources : Sources} {u : Unit} (hp : p.pamphlet = d.pamphlet)
    (hb : d.blocks .bugFixes = []) (hs : (outcome (blockOf .bugFixes) p).1 = .ok Section.bugFixes.block)
    (h : outcome (plan.listBugs sources) p = (.ok u, p')) :
    ∃ content, plan.bugContent sources = .ok content ∧ p'.pamphlet = (d.fill .bugFixes content).pamphlet := by
  obtain ⟨block, q, hblock, h1⟩ := outcome_bind_eq_ok.mp h
  obtain ⟨rfl, rfl⟩ := blockOf_eq_ok hs hblock
  obtain ⟨bugs, q1, hbugs, h2⟩ := outcome_bind_eq_ok.mp h1
  have hp1 := (Reads.readReport _ _ _).pamphlet_eq hp hbugs
  obtain ⟨intro, q2, hsaid, h3⟩ := outcome_bind_eq_ok.mp h2
  obtain ⟨hintro, rfl⟩ := sentence_eq_ok hsaid
  obtain ⟨_, q3, hparagraph, h4⟩ := outcome_bind_eq_ok.mp h3
  obtain ⟨table, q4, htable, h5⟩ := outcome_bind_eq_ok.mp h4
  obtain ⟨width, hw⟩ : ∃ width, Text.decimal? plan.settings.wording.borderWidth = some width := by
    cases hw : Text.decimal? plan.settings.wording.borderWidth with
    | some width => exact ⟨width, rfl⟩
    | none =>
      obtain ⟨fault, content, ho, -⟩ := addTable_of_none Section.bugFixes.block hw bugHeadings
        q3.pamphlet.trees
      rw [outcome_onTrees_of_error ho] at htable
      cases htable
  obtain ⟨rfl, hp4⟩ := introduced_eq_ok (adds_addTable _ hw bugHeadings) hp1 hb hparagraph htable
  have hp' := forM_addBug_eq_ok rfl hp4 (blocks_fill d _ _) h5
  rw [fill_fill] at hp'
  refine ⟨_, ?_, hp'⟩
  rw [Plan.bugContent, mapError_eq_ok_iff.mpr (issues_of_readReport hbugs), ok_bind, hintro, ok_bind, hw, written,
    ok_bind]
  rfl

theorem addField_eq_ok {plan : Plan} {sources : Sources} {entry : Headline × SummaryField} {q : Place}
    {u : Unit}
    (hq : q ≠ []) (hp : p.pamphlet = d.pamphlet)
    (h : outcome (plan.addField sources (s.block ++ q) entry) p = (.ok u, p')) :
    ∃ n, plan.environmentItem sources entry = .ok n ∧
      p'.pamphlet = (d.fill s (appendAt q [n] (d.blocks s))).pamphlet := by
  obtain ⟨text, q1, htext, h1⟩ := outcome_bind_eq_ok.mp h
  obtain ⟨_, q2, hadd, h2⟩ := outcome_bind_eq_ok.mp h1
  cases h2
  rw [outcome_environmentText, Prod.mk.injEq] at htext
  obtain ⟨htext, rfl⟩ := htext
  exact ⟨_, by rw [Plan.environmentItem, htext, ok_bind]; rfl,
    (adds_addLabelled _ _ text).eq_ok_in_block hq hp hadd⟩

theorem exists_filling_of_listEnvironment {plan : Plan} {sources : Sources} {u : Unit}
    (hp : p.pamphlet = d.pamphlet) (hb : d.blocks .buildEnvironment = [])
    (hs : (outcome (blockOf .buildEnvironment) p).1 = .ok Section.buildEnvironment.block)
    (h : outcome (plan.listEnvironment sources) p = (.ok u, p')) :
    ∃ content, plan.environmentContent sources = .ok content ∧
      p'.pamphlet = (d.fill .buildEnvironment content).pamphlet := by
  obtain ⟨block, q, hblock, h1⟩ := outcome_bind_eq_ok.mp h
  obtain ⟨rfl, rfl⟩ := blockOf_eq_ok hs hblock
  obtain ⟨intro, q2, hsaid, h2⟩ := outcome_bind_eq_ok.mp h1
  obtain ⟨hintro, rfl⟩ := sentence_eq_ok hsaid
  obtain ⟨_, q3, hparagraph, h3⟩ := outcome_bind_eq_ok.mp h2
  obtain ⟨list, q4, hlist, h4⟩ := outcome_bind_eq_ok.mp h3
  obtain ⟨rfl, hp4⟩ := introduced_eq_ok (adds_addNode _ (Layout.holder .list [])) hp hb hparagraph hlist
  obtain ⟨items, hitems, hp'⟩ := forM_eq_ok_in_block
    (f := plan.addField sources (Section.buildEnvironment.block ++ [1]))
    (fun entry d p p' u hp ho => addField_eq_ok (List.cons_ne_nil 1 []) hp ho) rfl hp4 (blocks_fill d _ _) h4
  rw [fill_fill] at hp'
  exact ⟨_, by rw [Plan.environmentContent, hintro, ok_bind, hitems, ok_bind]; rfl, hp'⟩

/-! ### The issues -/

theorem tagsAround_in_block (d : Draft) (s : Section) (k : Nat) :
    tagsAround [d.page] (s.block ++ [k]) = blockTags := by
  cases s <;> rfl

theorem childAt?_last (content : List Node) {m n : Node} (hm : m.isText = false) (hn : n.isText = false) :
    childAt? (content ++ [m, n]) (childCount content + 1) = some n := by
  rw [childAt?_append, if_neg (by omega), Nat.add_sub_cancel_left, childAt?_cons_succ hm,
    childAt?_cons_zero hn]

theorem changeChild_last (content : List Node) {m n : Node} (hm : m.isText = false) (hn : n.isText = false)
    (f : Node → Node) :
    changeChild f (content ++ [m, n]) (childCount content + 1) = content ++ [m, f n] := by
  rw [changeChild_append, if_neg (by omega), Nat.add_sub_cancel_left, changeChild_cons_succ hm,
    changeChild_cons_zero hn]

/-- An entry in the list that stands second in the block of the issues. -/
theorem appendAt_second {n : Node} (hn : n.isText = false) (e : PageElement) (inner rest new : List Node) :
    appendAt [1] new (n :: Layout.holder e inner :: rest) = n :: Layout.holder e (inner ++ new) :: rest :=
  (changeChild_cons_succ hn).trans (congrArg _ (changeChild_cons_zero rfl))

/-- The section of an issue is added with an entry in the table of contents and one in the list that
stands second in the block. -/
theorem addSection_eq_ok_of_draft {name caption : String} {n : Node} {es : List (String × String)}
    {rest : List Node} {details : Place} (hn : n.isText = false) (hp : p.pamphlet = d.pamphlet)
    (hb : d.blocks s = n :: Layout.holder .list (Layout.entries es) :: rest)
    (h : outcome
      (onTrees (addSection s.block .issueDetail name [tocPlace, s.block ++ [1]] (some caption))) p =
      (.ok details, p')) :
    details = s.block ++ [childCount (d.blocks s) + 1] ∧
      p'.pamphlet = ((d.enter name caption).fill s
        (n :: Layout.holder .list (Layout.entries (es ++ [(name, caption)])) ::
        (rest ++ Layout.headed .issueDetail name []))).pamphlet := by
  have htrees := Draft.trees_eq hp
  cases hl : isLegalText caption && isLegalText name with
  | false =>
    have ho : outcome (addSection s.block .issueDetail name [tocPlace, s.block ++ [1]] (some caption))
        p.pamphlet.trees = _ :=
      outcome_addSection_of_illegal (by exact hl) (List.cons_ne_nil _ _) _
    rw [outcome_onTrees_of_error ho] at h
    cases h
  | true =>
    have ht : ∀ toc ∈ [tocPlace, s.block ++ [1]],
        ∃ tag inner, nodeAt? [d.page] toc = some (.element tag inner) := by
      rw [List.forall_mem_cons, List.forall_mem_singleton, nodeAt?_in_block d s (List.cons_ne_nil _ _), hb]
      exact ⟨⟨_, _, nodeAt?_toc d _⟩, _, _, (childAt?_cons_succ hn).trans (childAt?_cons_zero rfl)⟩
    have henter : enterAll (Layout.entry name caption) [tocPlace, s.block ++ [1]] [d.page] =
        [((d.enter name caption).fill s
          (n :: Layout.holder .list (Layout.entries (es ++ [(name, caption)])) :: rest)).page] := by
      have ha : appendAt tocPlace [Layout.entry name caption] [d.page] = [(d.enter name caption).page] :=
        appendAt_toc d _ name caption
      have hb' : (d.enter name caption).blocks s = n :: Layout.holder .list (Layout.entries es) :: rest := hb
      rw [enterAll, List.foldl_cons, List.foldl_cons, List.foldl_nil, ha, appendAt,
        changeAt_in_block _ s (List.cons_ne_nil _ _)]
      show [((d.enter name caption).fill s (appendAt [1] [_] _)).page] = _
      rw [hb', appendAt_second hn, Layout.entries, Layout.entries, List.map_append]
      rfl
    have ho : outcome (addSection s.block .issueDetail name [tocPlace, s.block ++ [1]] (some caption))
      [d.page] = _ :=
      outcome_addSection (by exact hl) ht .issueDetail
    rw [Option.getD_some, henter, outcome_addHeader (nodeAt?_block _ s),
      if_pos (Bool.and_eq_true _ _ ▸ hl : _ ∧ _).2, appendAt_block, blocks_fill, fill_fill, ← htrees] at ho
    rw [outcome_onTrees_of_ok ho] at h
    cases h
    refine ⟨?_, Draft.pamphlet_withTrees hp⟩
    rw [hb, childCount_cons hn, childCount_cons hn, childCount_cons rfl, childCount_cons rfl]

/-- The note of an issue is copied into the block that stands last. -/
theorem fillIssue_eq_ok_of_draft {issue : Tracker.Issue} {note? : Option Document} {c : List Node} {m : Node}
    {u : Unit} (hm : m.isText = false) (hp : p.pamphlet = d.pamphlet)
    (hb : d.blocks s = c ++ [m, Layout.holder .block []])
    (h : outcome (fillIssue issue (s.block ++ [childCount c + 1]) note?) p = (.ok u, p')) :
    ∃ details, noteCopy issue note? = .ok details ∧
      p'.pamphlet = (d.fill s (c ++ [m, Layout.holder .block details])).pamphlet := by
  cases note? with
  | none =>
    cases h
    exact ⟨[], rfl, by rw [fill_self hb, hp]⟩
  | some note =>
    obtain ⟨body, q, hread, h1⟩ := outcome_bind_eq_ok.mp h
    obtain ⟨hbody, rfl⟩ := orFail_eq_ok hread
    refine ⟨copyUnder detailTags body, by rw [noteCopy, mapError_eq_ok_iff.mpr hbody]; rfl, ?_⟩
    have he : nodeAt? [d.page] (s.block ++ [childCount c + 1]) = some (Layout.holder .block []) := by
      rw [nodeAt?_in_block d s (List.cons_ne_nil _ _), hb]
      exact childAt?_last c hm rfl
    rw [outcome_onTrees, Draft.trees_eq hp, outcome_addCopy he, changeAt_in_block d s (List.cons_ne_nil _ _),
      tagsAround_in_block, hb] at h1
    cases h1
    rw [Draft.pamphlet_withTrees hp]
    exact congrArg (fun c => (d.fill s c).pamphlet) (changeChild_last c hm rfl _)

theorem announceIssue_eq_ok {plan : Plan} {block : Place} {issue : Tracker.Issue}
    {told : Option Document × String}
    (h : outcome (plan.announceIssue block issue) p = (.ok told, p')) :
    plan.noteFor issue = .ok told.1 ∧ plan.settings.wording.noteSummary issue.key told.1 = .ok told.2 := by
  obtain ⟨note?, q, h1, h⟩ := outcome_bind_eq_ok.mp h
  obtain ⟨summary, q', h2, h⟩ := outcome_bind_eq_ok.mp h
  obtain ⟨_, q'', -, h⟩ := outcome_bind_eq_ok.mp h
  cases h
  refine ⟨(fst_outcome_noteOf plan issue p).symm.trans (congrArg Prod.fst h1), ?_⟩
  rw [outcome_orFail] at h2
  revert h2
  cases plan.settings.wording.noteSummary issue.key note? with
  | error fault => nofun
  | ok s =>
    intro h2
    cases h2
    rfl

theorem exists_noteCopy_of_fillIssue {issue : Tracker.Issue} {details : Place} {note? : Option Document}
    {u : Unit}
    (h : outcome (fillIssue issue details note?) p = (.ok u, p')) :
    ∃ copied, noteCopy issue note? = .ok copied := by
  cases note? with
  | none => exact ⟨[], rfl⟩
  | some note =>
    obtain ⟨body, q, hread, -⟩ := outcome_bind_eq_ok.mp h
    exact ⟨_, by rw [noteCopy, mapError_eq_ok_iff.mpr (orFail_eq_ok hread).1]; rfl⟩

theorem tell_eq_ok {plan : Plan} {issue : Tracker.Issue} {note? : Option Document} {summary : String}
    {copied : List Node} (hn : plan.noteFor issue = .ok note?)
    (hs : plan.settings.wording.noteSummary issue.key note? = .ok summary)
    (hc : noteCopy issue note? = .ok copied) :
    plan.tell issue = .ok ⟨issue.sectionName, issue.caption summary, copied⟩ := by
  rw [Plan.tell, hn, ok_bind, mapError_eq_ok_iff.mpr hs, ok_bind, hc, ok_bind]
  rfl

/-- An issue is told of after those before it. -/
theorem addIssue_eq_ok_of_draft {plan : Plan} {issue : Tracker.Issue} {intro : String} {told : List Told}
    {u : Unit}
    (hp : p.pamphlet = d.pamphlet) (hb : d.blocks s = issuesContent intro told)
    (h : outcome (plan.addIssue s.block (s.block ++ [1]) issue) p = (.ok u, p')) :
    ∃ t, plan.tell issue = .ok t ∧
      p'.pamphlet = ((d.enter t.name t.caption).fill s (issuesContent intro (told ++ [t]))).pamphlet := by
  rw [addIssue_eq] at h
  obtain ⟨⟨note?, summary⟩, p1, hannounce, h1⟩ := outcome_bind_eq_ok.mp h
  obtain ⟨q, p2, hget, h2⟩ := outcome_bind_eq_ok.mp h1
  cases hget
  obtain ⟨details, p3, hsection, hfill⟩ := outcome_bind_eq_ok.mp h2
  obtain ⟨hnote, hsummary⟩ := announceIssue_eq_ok hannounce
  -- the line is added first
  have hp1 : p1.pamphlet = (d.fill s (d.blocks s ++ [Layout.holder .line []])).pamphlet := by
    obtain ⟨_, q1, hn, h3⟩ := outcome_bind_eq_ok.mp hannounce
    obtain ⟨_, q2, hs, h4⟩ := outcome_bind_eq_ok.mp h3
    obtain ⟨_, q3, hl, h5⟩ := outcome_bind_eq_ok.mp h4
    cases h5
    obtain ⟨-, rfl⟩ := orFail_eq_ok hs
    exact ((adds_addNode _ (emptyElement PageElement.line.label)).eq_ok_of_draft
      ((Reads.noteOf plan issue).pamphlet_eq hp hn) hl).2
  have htoc : p1.pamphlet.toc = tocPlace := by rw [hp1]; rfl
  rw [htoc] at hsection
  have hb1 : (d.fill s (d.blocks s ++ [Layout.holder .line []])).blocks s = Layout.paragraph intro ::
      Layout.holder .list (Layout.entries (told.map Told.entry)) ::
        (told.flatMap Told.nodes ++ [Layout.holder .line []]) := by
    rw [blocks_fill, hb]
    rfl
  obtain ⟨rfl, hp3⟩ := addSection_eq_ok_of_draft rfl hp1 hb1 hsection
  rw [Draft.enter, enterAll_fill_fill] at hp3
  -- then the section, and in the end what it holds
  have hb3 : ((d.enter issue.sectionName (issue.caption summary)).fill s _).blocks s =
      (Layout.paragraph intro :: Layout.holder .list (Layout.entries (told.map Told.entry ++
        [(issue.sectionName, issue.caption summary)])) ::
          (told.flatMap Told.nodes ++ [Layout.holder .line []])) ++
        [Layout.heading .issueDetail issue.sectionName, Layout.holder .block []] := blocks_fill _ s _
  rw [hb1] at hfill
  obtain ⟨copied, hcopied, hp'⟩ := fillIssue_eq_ok_of_draft rfl hp3 hb3 hfill
  refine ⟨_, tell_eq_ok hnote hsummary hcopied, hp'.trans ?_⟩
  rw [fill_fill]
  refine congrArg (fun c => ((d.enter issue.sectionName (issue.caption summary)).fill s c).pamphlet) ?_
  simp [issuesContent, Told.entry, Told.nodes, Layout.headed]

/-- All issues are told of one after the other. -/
theorem forM_addIssue_eq_ok {plan : Plan} {issues : List Tracker.Issue} {intro : String} {told : List Told}
    {u : Unit} (hp : p.pamphlet = d.pamphlet) (hb : d.blocks s = issuesContent intro told)
    (h : outcome (issues.forM (plan.addIssue s.block (s.block ++ [1]))) p = (.ok u, p')) :
    ∃ more, issues.mapM plan.tell = .ok more ∧
      p'.pamphlet = ((d.enterAll (more.map Told.entry)).fill s
        (issuesContent intro (told ++ more))).pamphlet := by
  induction issues generalizing d p told with
  | nil =>
    cases h
    exact ⟨[], rfl, by rw [List.map_nil, List.append_nil, enterAll_nil, fill_self hb, hp]⟩
  | cons issue issues ih =>
    rw [outcome_forM_cons] at h
    obtain ⟨_, q, hq, h1⟩ := outcome_bind_eq_ok.mp h
    obtain ⟨t, ht, hpq⟩ := addIssue_eq_ok_of_draft hp hb hq
    obtain ⟨more, hmore, hp'⟩ := ih hpq (blocks_fill _ s _) h1
    refine ⟨t :: more, by rw [List.mapM_cons, ht, ok_bind, hmore, ok_bind]; rfl, hp'.trans ?_⟩
    rw [enterAll_fill_fill, Draft.enter, enterAll_enterAll, List.append_assoc]
    rfl

theorem exists_filling_of_listIssues {plan : Plan} {sources : Sources} {u : Unit}
    (hp : p.pamphlet = d.pamphlet) (hb : d.blocks .issues = [])
    (hs : (outcome (blockOf .issues) p).1 = .ok Section.issues.block)
    (h : outcome (plan.listIssues sources) p = (.ok u, p')) :
    ∃ intro told, plan.phrase sources plan.settings.wording.issues [] = .ok intro ∧
      plan.tellAll sources = .ok told ∧ p'.pamphlet =
        ((d.enterAll (told.map Told.entry)).fill .issues (issuesContent intro told)).pamphlet := by
  obtain ⟨block, q, hblock, h1⟩ := outcome_bind_eq_ok.mp h
  obtain ⟨rfl, rfl⟩ := blockOf_eq_ok hs hblock
  obtain ⟨issues, q1, hissues, h2⟩ := outcome_bind_eq_ok.mp h1
  have hp1 := (Reads.readReport _ _ _).pamphlet_eq hp hissues
  obtain ⟨intro, q2, hsaid, h3⟩ := outcome_bind_eq_ok.mp h2
  obtain ⟨hintro, rfl⟩ := sentence_eq_ok hsaid
  obtain ⟨_, q3, hparagraph, h4⟩ := outcome_bind_eq_ok.mp h3
  obtain ⟨list, q4, hlist, h5⟩ := outcome_bind_eq_ok.mp h4
  obtain ⟨rfl, hp4⟩ := introduced_eq_ok (adds_addNode _ (Layout.holder .list [])) hp1 hb hparagraph hlist
  have hb4 : (d.fill .issues [Layout.paragraph intro, Layout.holder .list []]).blocks .issues =
      issuesContent intro [] := blocks_fill d _ _
  obtain ⟨told, htold, hp'⟩ := forM_addIssue_eq_ok hp4 hb4 h5
  refine ⟨intro, told, hintro, ?_, hp'.trans ?_⟩
  · rw [Plan.tellAll, mapError_eq_ok_iff.mpr (issues_of_readReport hissues), ok_bind, htold]
  · rw [enterAll_fill_fill, List.nil_append]

/-! ### Any section -/

/-- A step that finds its section where it was opened fills it. -/
theorem exists_filling_of_takeStep {plan : Plan} {sources : Sources} {u : Unit} (hp : p.pamphlet = d.pamphlet)
    (hb : d.blocks s = []) (hs : (outcome (blockOf s) p).1 = .ok s.block)
    (h : outcome (plan.takeStep sources s.step) p = (.ok u, p')) :
    ∃ content entries, plan.filling sources s = .ok (content, entries) ∧
      p'.pamphlet = ((d.enterAll entries).fill s content).pamphlet := by
  have hn (content : List Node) : (d.fill s content).pamphlet =
    ((d.enterAll []).fill s content).pamphlet := by
    rw [enterAll_nil]
  cases s with
  | overview =>
    obtain ⟨content, hc, hp'⟩ := exists_filling_of_copyField hp hb hs h
    exact ⟨content, [], by rw [Plan.filling, hc]; rfl, hp'.trans (hn content)⟩
  | newFeatures =>
    obtain ⟨content, hc, hp'⟩ := exists_filling_of_copyField hp hb hs h
    exact ⟨content, [], by rw [Plan.filling, hc]; rfl, hp'.trans (hn content)⟩
  | bugFixes =>
    obtain ⟨content, hc, hp'⟩ := exists_filling_of_listBugs hp hb hs h
    exact ⟨content, [], by rw [Plan.filling, hc]; rfl, hp'.trans (hn content)⟩
  | issues =>
    obtain ⟨intro, told, hi, ht, hp'⟩ := exists_filling_of_listIssues hp hb hs h
    exact ⟨_, _, by rw [Plan.filling, hi, ok_bind, ht]; rfl, hp'⟩
  | buildEnvironment =>
    obtain ⟨content, hc, hp'⟩ := exists_filling_of_listEnvironment hp hb hs h
    exact ⟨content, [], by rw [Plan.filling, hc]; rfl, hp'.trans (hn content)⟩

end ReleaseNotes
