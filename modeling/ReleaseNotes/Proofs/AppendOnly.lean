import ReleaseNotes.Proofs.Assembling

/-!
# The pamphlet only grows

Every step of the assembly only adds to the pamphlet, in whatever order the steps are taken, how
often ever, and also where they fail: what is there before a step is there after it, grown at ends
only (`Node.GrowsTo`). `OnlyAdds` says so of any part of the work; it holds of every change that the
steps are made of and goes through sequences and loops.
-/

namespace ReleaseNotes

open Markup

variable {α β : Type}

/-- The trees of a pamphlet have grown, and its page is where it was. -/
def Pamphlet.GrowsTo (p p' : Pamphlet) : Prop :=
  Grows p.trees p'.trees ∧ ∀ root, p.root? = some root → p'.root? = some root

theorem Pamphlet.GrowsTo.refl (p : Pamphlet) : p.GrowsTo p := ⟨.refl _, fun _ => id⟩

theorem Pamphlet.GrowsTo.trans {p p' p'' : Pamphlet} (h : p.GrowsTo p') (h' : p'.GrowsTo p'') :
    p.GrowsTo p'' :=
  ⟨h.1.trans h'.1, fun root hr => h'.2 root (h.2 root hr)⟩

/-- The page has grown with the trees. -/
theorem Pamphlet.GrowsTo.page? {p p' : Pamphlet} (h : p.GrowsTo p') {page : Node}
    (hp : p.page? = some page) : ∃ page', p'.page? = some page' ∧ page.GrowsTo page' := by
  obtain ⟨root, hr, hn⟩ := Option.bind_eq_some_iff.mp hp
  obtain ⟨page', hn', hg⟩ := h.1.nodeAt? hn
  exact ⟨page', Option.bind_eq_some_iff.mpr ⟨root, h.2 root hr, hn'⟩, hg⟩

/-- Whatever comes of some work, the pamphlet has only grown. -/
def OnlyAdds (work : Assembling α) : Prop :=
  ∀ p : Progress, p.pamphlet.GrowsTo (outcome work p).2.pamphlet

theorem Reads.onlyAdds {work : Assembling α} (h : Reads work) : OnlyAdds work := by
  intro p
  rw [h p]
  exact .refl p.pamphlet

theorem OnlyAdds.bind {work : Assembling α} {next : α → Assembling β} (h : OnlyAdds work)
    (hn : ∀ a, OnlyAdds (next a)) : OnlyAdds (work >>= next) := by
  intro p
  have := h p
  rw [outcome_bind]
  revert this
  rcases outcome work p with ⟨_ | a, p'⟩
  · exact id
  · exact fun hp => hp.trans (hn a p')

theorem OnlyAdds.forM {f : α → Assembling PUnit} (h : ∀ a, OnlyAdds (f a)) (l : List α) :
    OnlyAdds (l.forM f) := by
  induction l with
  | nil => exact (Reads.pure _).onlyAdds
  | cons a l ih => exact .bind (h a) fun _ => ih

theorem OnlyAdds.onPamphlet {change : Building α}
    (h : ∀ p : Pamphlet, p.GrowsTo (outcome change p).2) : OnlyAdds (onPamphlet change) := by
  intro p
  rw [outcome_onPamphlet]
  exact h p.pamphlet

theorem OnlyAdds.onTrees {change : Editing α} (h : ∀ content, Grows content (outcome change content).2) :
    OnlyAdds (onTrees change) := by
  intro p
  rw [outcome_onTrees]
  exact ⟨h p.pamphlet.trees, fun _ => id⟩

theorem OnlyAdds.of_adds {work : Editing α} {here : Place} {new : List Node} {result : Nat → α}
    (h : Adds here work new result) : OnlyAdds (ReleaseNotes.onTrees work) :=
  .onTrees fun content => (h.addedAt content).grows

/-! ### The steps -/

/-- Beginning a page that has been begun does nothing; otherwise the page is new. -/
theorem growsTo_begin (title : String) (p : Pamphlet) : p.GrowsTo (outcome (begin title) p).2 := by
  cases h : p.root? with
  | some root =>
    rw [outcome_begin_of_some h]
    exact .refl p
  | none =>
    rw [outcome_begin_of_none h]
    split
    · exact ⟨.append _ _, fun root hr => by simp [h] at hr⟩
    · exact ⟨.append _ _, fun root hr => by simp [h] at hr⟩

theorem growsTo_addToc (p : Pamphlet) : p.GrowsTo (outcome addToc p).2 := by
  rw [addToc, outcome_bind_of_ok (outcome_get p), outcome_bind, outcome_edit]
  have := ((adds_addNode p.body (emptyElement PageElement.list.label)).addedAt p.trees).grows
  revert this
  show Grows _ (outcome (addList p.body) p.trees).2 → _
  rcases outcome (addList p.body) p.trees with ⟨_ | toc, trees⟩
  · exact fun h => ⟨h, fun _ => id⟩
  · exact fun h => ⟨h, fun _ => id⟩

theorem onlyAdds_openPamphlet (plan : Plan) (sources : Sources) : OnlyAdds (plan.openPamphlet sources) := by
  refine .bind (Reads.sentence _ _ _ _).onlyAdds fun title => .bind (.onPamphlet (growsTo_begin title))
    fun body => .bind (.of_adds (adds_addHeader _ _ _)) fun banner => ?_
  refine .bind (Reads.sentence _ _ _ _).onlyAdds fun delta => .bind (.of_adds (adds_addParagraph _ _))
    fun _ => .bind (.onPamphlet growsTo_addToc) fun toc => .forM (fun s => ?_) _
  exact .bind (.onTrees (grows_addSection _ _ _ _ _)) fun _ => (Reads.pure _).onlyAdds

theorem onlyAdds_copyField (sources : Sources) (s : Section) (field : SummaryField) :
    OnlyAdds (copyField sources s field) :=
  .bind (Reads.blockOf s).onlyAdds fun _ => .bind (Reads.orFail _ _).onlyAdds fun _ =>
    .onTrees fun content => (addedAt_addCopy _ _ content).grows

theorem onlyAdds_listBugs (plan : Plan) (sources : Sources) : OnlyAdds (plan.listBugs sources) :=
  .bind (Reads.blockOf _).onlyAdds fun _ => .bind (Reads.readReport _ _ _).onlyAdds fun bugs =>
    .bind (Reads.sentence _ _ _ _).onlyAdds fun _ => .bind (.of_adds (adds_addParagraph _ _)) fun _ =>
      .bind (.onTrees fun content => (addedAt_addTable _ _ _ content).grows) fun _ =>
        .forM (fun bug => .of_adds (adds_addBug _ _ bug)) bugs

theorem onlyAdds_addIssue (plan : Plan) (block list : Place) (issue : Tracker.Issue) :
    OnlyAdds (plan.addIssue block list issue) := by
  refine .bind (Reads.noteOf plan issue).onlyAdds fun note? => .bind (Reads.orFail _ _).onlyAdds
    fun summary => .bind (.of_adds (adds_addNode _ _)) fun _ => ?_
  have hget : OnlyAdds get := fun p => .refl p.pamphlet
  refine hget.bind fun p =>
    .bind (.onTrees (grows_addSection _ _ _ _ _)) fun details => ?_
  cases note? with
  | none => exact (Reads.modify fun _ => rfl).onlyAdds
  | some note =>
    exact .bind (Reads.orFail _ _).onlyAdds fun body =>
      .onTrees fun content => (addedAt_addCopy _ _ content).grows

theorem onlyAdds_listIssues (plan : Plan) (sources : Sources) : OnlyAdds (plan.listIssues sources) :=
  .bind (Reads.blockOf _).onlyAdds fun block => .bind (Reads.readReport _ _ _).onlyAdds fun issues =>
    .bind (Reads.sentence _ _ _ _).onlyAdds fun _ => .bind (.of_adds (adds_addParagraph _ _)) fun _ =>
      .bind (.of_adds (adds_addNode _ _)) fun list => .forM (onlyAdds_addIssue plan block list) issues

theorem onlyAdds_addField (plan : Plan) (sources : Sources) (list : Place) (entry : Headline × SummaryField) :
    OnlyAdds (plan.addField sources list entry) :=
  .bind (Reads.environmentText plan sources entry.2).onlyAdds fun _ =>
    .bind (.of_adds (adds_addLabelled _ _ _)) fun _ => (Reads.pure _).onlyAdds

theorem onlyAdds_listEnvironment (plan : Plan) (sources : Sources) :
    OnlyAdds (plan.listEnvironment sources) :=
  .bind (Reads.blockOf _).onlyAdds fun _ => .bind (Reads.sentence _ _ _ _).onlyAdds fun _ =>
    .bind (.of_adds (adds_addParagraph _ _)) fun _ => .bind (.of_adds (adds_addNode _ _)) fun list =>
      .forM (onlyAdds_addField plan sources list) buildEnvironment

/-- A step only adds, whatever comes of it. -/
theorem onlyAdds_takeStep (plan : Plan) (sources : Sources) (step : Step) :
    OnlyAdds (plan.takeStep sources step) := by
  cases step with
  | opening => exact onlyAdds_openPamphlet plan sources
  | overview => exact onlyAdds_copyField sources .overview .overview
  | newFeatures => exact onlyAdds_copyField sources .newFeatures .newFeatures
  | bugList => exact onlyAdds_listBugs plan sources
  | issuesList => exact onlyAdds_listIssues plan sources
  | environment => exact onlyAdds_listEnvironment plan sources

theorem onlyAdds_forM_takeShownStep (plan : Plan) (sources : Sources) (steps : List Step) :
    OnlyAdds (steps.forM (plan.takeShownStep sources)) := by
  refine .forM (fun step => ?_) steps
  rw [takeShownStep_eq]
  exact .bind (Reads.announce plan step).onlyAdds fun _ => onlyAdds_takeStep plan sources step

/-- **The pamphlet is append-only.** -/
theorem page_growsTo_of_attempt (plan : Plan) (sources : Sources) (start : Progress)
    (before : List Step) (step : Step) (page : Node)
    (h : (plan.attempt sources before start).pamphlet.page? = some page) :
    ∃ page', (plan.attempt sources (before ++ [step]) start).pamphlet.page? = some page' ∧
      page.GrowsTo page' := by
  rw [Plan.attempt_append]
  exact (onlyAdds_takeStep plan sources step _).page? h

/-- The page of the small release grows from its opening to its overview. -/
theorem page_growsTo_small :
    ∃ page page', (smallPlan.attempt (smallSources [.text "o"]) [.opening] {}).pamphlet.page? = some page ∧
      (smallPlan.attempt (smallSources [.text "o"]) ([.opening] ++ [.overview]) {}).pamphlet.page? =
        some page' ∧
      page.GrowsTo page' := by
  obtain ⟨page, h⟩ : ∃ page, (smallPlan.attempt (smallSources [.text "o"]) [.opening] {}).pamphlet.page? =
      some page := Option.isSome_iff_exists.mp (by decide +kernel)
  obtain ⟨page', h', hg⟩ :=
    page_growsTo_of_attempt smallPlan (smallSources [.text "o"]) {} [.opening] .overview page h
  exact ⟨page, page', h, h', hg⟩

end ReleaseNotes
