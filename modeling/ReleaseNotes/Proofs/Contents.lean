import ReleaseNotes.Proofs.Filling
import ReleaseNotes.Proofs.Shelter

/-!
# The table of contents

Whatever steps are tried in whatever order, the table of contents of the page lists exactly the
sections that have been added, in the order in which they were, and every entry leads to a heading.
The record of the sections added (`Plan.recordStep`) is kept apart from the page, and `Recorded` ties
the two together: it holds after every step, also where the step fails (`recorded_recordStep`).
-/

namespace ReleaseNotes

open Markup

variable {block list q : Place} {p p' : Progress} {s : Progress × List SectionCall}
  {lists : List (Place × List (String × String))} {headings : List (HeaderLevel × String)}
  {calls calls' : List SectionCall}

/-! ### The list of issues -/

theorem exists_nodeAt?_of_prefix {content : List Node} {n : Node} (hq : q ≠ []) {q' : Place} (h : q <+: q')
    (hn : nodeAt? content q' = some n) : ∃ m, nodeAt? content q = some m := by
  obtain ⟨r, rfl⟩ := h
  cases r with
  | nil => exact ⟨n, List.append_nil q ▸ hn⟩
  | cons i r =>
    rw [nodeAt?_append hq (List.cons_ne_nil i r)] at hn
    obtain ⟨m, hm, -⟩ := Option.bind_eq_some_iff.mp hn
    exact ⟨m, hm⟩

/-- A list that is added after a paragraph is sheltered, and apart from all lists before. -/
theorem ensures_addList (hc : Clear (lists.map Prod.fst) block) (intro : String) :
    Ensures (Shows lists headings)
      (onTrees (addParagraph block intro) >>= fun _ => onTrees (addList block))
      (fun list p => Shows ((list, []) :: lists) headings p ∧ Clear (list :: lists.map Prod.fst) block ∧
        ∀ l ∈ lists, ¬ l.1 <+: list ∧ ¬ list <+: l.1)
      (Shows lists headings) := by
  refine fun p hp => ?_
  have h1 := hp.addedAt ((adds_addParagraph block intro).addedAt p.pamphlet.trees) hc
  rcases adds_addParagraph block intro p.pamphlet.trees with ⟨tag, inner, he, ho⟩ | ⟨fault, content, ho, -⟩
  · rw [ho] at h1
    rw [outcome_bind_of_ok (outcome_onTrees_of_ok ho)]
    have he1 := nodeAt?_appendAt he [Layout.paragraph intro]
    have hb1 : nodeAt? (appendAt block [Layout.paragraph intro] p.pamphlet.trees)
        (block ++ [childCount inner]) = some (Layout.paragraph intro) := nodeAt?_appendAt_child he rfl []
    have hcount : childCount (inner ++ [Layout.paragraph intro]) = childCount inner + 1 :=
      childCount_append _ _
    have h2 := h1.addedAt (.appendAt block [Layout.holder .list []] _) hc
    obtain ⟨before, hb2, hg⟩ := (Grows.appendAt block [Layout.holder .list []] _).nodeAt? hb1
    have hl2 := nodeAt?_appendAt_child (n := Layout.holder .list []) he1 rfl []
    have ho1 : outcome (onTrees (addList block))
        (p.withTrees (appendAt block [Layout.paragraph intro] p.pamphlet.trees)) = _ :=
      outcome_onTrees_of_ok (outcome_addNode he1 (Layout.holder .list []))
    rw [ho1]
    rw [hcount] at hl2 ⊢
    refine ⟨⟨h2.root?_eq, h2.toc?_eq, ?_, h2.headed⟩, ⟨hc.inPage, ?_⟩, fun l hl => ⟨?_, fun hp' => ?_⟩⟩
    · rw [List.forall_mem_cons]
      exact ⟨⟨hl2, block, _, before, rfl, hb2, (hg.isNamed_eq _).trans (isNamed_element _ _ _ _)⟩,
        h2.sheltered⟩
    · rw [List.forall_mem_cons]
      refine ⟨fun hpre => ?_, hc.not_prefix⟩
      have := hpre.length_le
      rw [List.length_append, List.length_singleton] at this
      omega
    · exact (h1.sheltered l hl).not_prefix_new (hc.not_prefix l.1 (List.mem_map_of_mem hl)) he1 (by omega)
    · -- the list is new, and what stands in it is too
      obtain ⟨m, hm⟩ := exists_nodeAt?_of_prefix (List.concat_ne_nil _ _) hp' (h1.sheltered l hl).nodeAt?_eq
      have hnone := nodeAt?_next_child he1
      rw [hcount] at hnone
      change nodeAt? (appendAt block [Layout.paragraph intro] p.pamphlet.trees) _ = _ at hm
      rw [hnone] at hm
      cases hm
  · rw [ho] at h1
    rw [outcome_bind_of_error (outcome_onTrees_of_error ho)]
    exact h1

/-- What is shown once the issues are about to be listed. -/
structure Listing (lists : List (Place × List (String × String))) (headings : List (HeaderLevel × String))
    (block list : Place) (p : Progress) : Prop where
  /-- The list is shown besides the others. -/
  shows : Shows ((list, []) :: lists) headings p
  /-- The block is apart from all of them. -/
  clear : Clear (list :: lists.map Prod.fst) block
  /-- The list is apart from the others. -/
  apart : ∀ l ∈ lists, ¬ l.1 <+: list ∧ ¬ list <+: l.1

theorem ensures_openIssues (plan : Plan) (sources : Sources) :
    Ensures (Shows lists headings) (plan.openIssues sources)
      (fun opened => Listing lists headings opened.1 opened.2.1) (Shows lists headings) := by
  refine (ensures_blockOf .issues).bind fun block => .of_and fun hc =>
    (Reads.readReport _ _ _).ensures_shows.bind fun issues => (Reads.sentence _ _ _ _).ensures_shows.bind
      fun intro => ?_
  have hlist : Ensures (Shows lists headings) _ _ _ := ensures_addList hc intro
  have h := hlist.bind (R := fun opened =>
    Listing lists headings opened.1 opened.2.1) (f := fun list => pure (block, list, issues))
    fun list => .pure fun p hp => ⟨hp.1, hp.2.1, hp.2.2⟩
  rwa [bind_assoc] at h

/-! ### One issue -/

theorem ensures_announceIssue (plan : Plan) (issue : Tracker.Issue) (hc : Clear (lists.map Prod.fst) block) :
    Ensures (Shows lists headings) (plan.announceIssue block issue)
      (fun _ p => Shows lists headings p ∧
        ∃ tag inner, nodeAt? p.pamphlet.trees block = some (.element tag inner))
      (Shows lists headings) := by
  refine (Reads.noteOf plan issue).ensures_shows.bind fun note? => (Reads.orFail _ _).ensures_shows.bind
    fun summary => Ensures.bind (Q := fun _ p => Shows lists headings p ∧
      ∃ tag inner, nodeAt? p.pamphlet.trees block = some (.element tag inner)) (fun p hp => ?_)
        fun _ => .pure fun _ => id
  have h1 := hp.addedAt ((adds_addNode block (emptyElement PageElement.line.label)).addedAt
    p.pamphlet.trees) hc
  rcases adds_addNode block (emptyElement PageElement.line.label) p.pamphlet.trees with
    ⟨tag, inner, he, ho⟩ | ⟨fault, content, ho, -⟩
  · rw [ho] at h1
    have ho1 : outcome (onTrees (addLine block)) p = _ := outcome_onTrees_of_ok ho
    rw [ho1]
    exact ⟨h1, tag, _, nodeAt?_appendAt he _⟩
  · rw [ho] at h1
    have ho1 : outcome (onTrees (addLine block)) p = _ := outcome_onTrees_of_error ho
    rw [ho1]
    exact h1

/-- Entering a section in both lists. -/
theorem Shows.enter {es es' : List (String × String)} (h : Shows [(list, es'), (tocPlace, es)] headings p)
    (h1 : ¬ tocPlace <+: list) (h2 : ¬ list <+: tocPlace) (name caption : String) :
    Shows [(list, es' ++ [(name, caption)]), (tocPlace, es ++ [(name, caption)])] headings
      (p.withTrees (enterAll (Layout.entry name caption) [tocPlace, list] p.pamphlet.trees)) := by
  have hl := h.sheltered _ (.head _)
  have ht := h.sheltered _ (.tail _ (.head _))
  refine ⟨h.root?_eq, h.toc?_eq, ?_, h.exists_heading_of_grows
    ((Grows.appendAt _ _ _).trans (.appendAt _ _ _))⟩
  rw [List.forall_mem_cons, List.forall_mem_singleton]
  exact ⟨(hl.addedAt (.appendAt _ _ _) h2).enter name caption, (ht.enter name caption).addedAt
    (.appendAt _ _ _) h1⟩

/-- The section of an issue is entered in both lists and added, or nothing is done. -/
theorem addIssueSection_cases {es es' : List (String × String)}
    (h : Shows [(list, es'), (tocPlace, es)] headings p) (h1 : ¬ tocPlace <+: list) (h2 : ¬ list <+: tocPlace)
    (hc : Clear [list, tocPlace] block) {tag : Tag} {inner : List Node}
    (he : nodeAt? p.pamphlet.trees block = some (.element tag inner)) (name caption : String) :
    (∃ details p',
      outcome (onTrees (addSection block .issueDetail name [p.pamphlet.toc, list] (some caption))) p =
        (.ok details, p') ∧ Clear [list, tocPlace] details ∧
      Shows [(list, es' ++ [(name, caption)]), (tocPlace, es ++ [(name, caption)])]
        (headings ++ [(.issueDetail, name)]) p') ∨
    ∃ fault, outcome (onTrees (addSection block .issueDetail name [p.pamphlet.toc, list] (some caption))) p =
      (.error fault, p) := by
  have htoc : p.pamphlet.toc = tocPlace := by rw [Pamphlet.toc, h.toc?_eq]; rfl
  rw [htoc]
  cases hl : isLegalText caption && isLegalText name with
  | false =>
    refine .inr ⟨_, outcome_onTrees_of_error (outcome_addSection_of_illegal ?_ (List.cons_ne_nil _ _) _)⟩
    exact hl
  | true =>
    have hs := h.enter h1 h2 name caption
    have hg : Grows p.pamphlet.trees
      (enterAll (Layout.entry name caption) [tocPlace, list] p.pamphlet.trees) :=
      (Grows.appendAt _ _ _).trans (.appendAt _ _ _)
    obtain ⟨n, he1, hgn⟩ := hg.nodeAt? he
    obtain ⟨inner1, rfl, -⟩ := hgn.exists_of_element
    have ht : ∀ toc ∈ [tocPlace, list],
        ∃ tag inner, nodeAt? p.pamphlet.trees toc = some (.element tag inner) := by
      rw [List.forall_mem_cons, List.forall_mem_singleton]
      exact ⟨(h.sheltered _ (.tail _ (.head _))).exists_element, (h.sheltered _ (.head _)).exists_element⟩
    have ho : outcome (addSection block .issueDetail name [tocPlace, list] (some caption))
      p.pamphlet.trees = _ :=
      outcome_addSection (by exact hl) ht .issueDetail
    rw [Option.getD_some, outcome_addHeader he1, if_pos (Bool.and_eq_true _ _ ▸ hl : _ ∧ _).2] at ho
    have hc2 : Clear (List.map Prod.fst
      [(list, es' ++ [(name, caption)]), (tocPlace, es ++ [(name, caption)])]) block := hc
    refine .inl ⟨_, _, outcome_onTrees_of_ok ho, hc2.snoc hs he1 (Nat.le_succ _), ?_⟩
    have hs2 := hs.addedAt (.appendAt block (Layout.headed .issueDetail name []) _) hc2
    refine ⟨h.root?_eq, h.toc?_eq, hs2.sheltered, ?_⟩
    rw [List.forall_mem_append, List.forall_mem_singleton]
    refine ⟨hs2.headed, ?_⟩
    obtain ⟨r, hr⟩ := hc.inPage
    refine ⟨r ++ [childCount inner1], Layout.heading .issueDetail name, List.concat_ne_nil _ _, ?_,
      (isHeader_heading name).trans (beq_self_eq_true name)⟩
    rw [← List.append_assoc, hr]
    exact nodeAt?_appendAt_child he1 rfl [Layout.holder .block []]

theorem ensures_fillIssue {details : Place} (issue : Tracker.Issue) (hc : Clear (lists.map Prod.fst) details)
    (note? : Option Document) :
    Ensures (Shows lists headings) (fillIssue issue details note?) (fun _ => Shows lists headings)
      (Shows lists headings) := by
  cases note? with
  | none =>
    have hr : Reads (fillIssue issue details none) := .modify fun _ => rfl
    exact hr.ensures_shows
  | some note =>
    exact (Reads.orFail _ _).ensures_shows.bind fun body => ensures_onTrees hc (addedAt_addCopy details body)

/-- The table of contents lists all sections recorded, and the list of the issues those that were
recorded after the first `n`. -/
structure Entered (list : Place) (n : Nat) (s : Progress × List SectionCall) : Prop where
  /-- What is shown. -/
  shows : Shows [(list, (s.2.drop n).map SectionCall.entry), (tocPlace, s.2.map SectionCall.entry)]
    (s.2.map SectionCall.heading) s.1
  /-- There have been that many sections. -/
  le : n ≤ s.2.length

/-- An issue is entered in both lists if its section is added, and in none of them if it is not. -/
theorem ensures_recordIssue {n : Nat} (plan : Plan) (issue : Tracker.Issue)
    (hc : Clear [list, tocPlace] block)
    (h1 : ¬ tocPlace <+: list) (h2 : ¬ list <+: tocPlace) :
    Ensures (Entered list n) (plan.recordIssue block list issue) (fun _ => Entered list n)
      (Entered list n) := by
  refine Ensures.bind (Q := fun _ s => Entered list n s ∧
    ∃ tag inner, nodeAt? s.1.pamphlet.trees block = some (.element tag inner))
    (.unrecorded fun calls p hs => ?_) fun told => Ensures.bind (Q := fun p s => (Entered list n s ∧
        ∃ tag inner, nodeAt? s.1.pamphlet.trees block = some (.element tag inner)) ∧ p = s.1) (fun s hs => ?_)
          fun p => Ensures.bind (Q := fun details s => Entered list n s ∧ Clear [list, tocPlace] details)
            (fun s hs => ?_) fun details => .of_and fun hd => .unrecorded fun calls p hs => ?_
  · have := ensures_announceIssue plan issue (by exact hc) p hs.shows
    revert this
    rcases outcome (plan.announceIssue block issue) p with ⟨_ | told, p'⟩
    · exact fun h => ⟨h, hs.le⟩
    · exact fun h => ⟨⟨h.1, hs.le⟩, h.2⟩
  · exact ⟨hs, rfl⟩
  · obtain ⟨p', calls⟩ := s
    obtain ⟨⟨hs, tag, inner, he⟩, rfl⟩ := hs
    rcases addIssueSection_cases hs.shows h1 h2 hc he issue.sectionName (issue.caption told.2) with
      ⟨details, p'', ho, hd, hs'⟩ | ⟨fault, ho⟩
    · rw [outcome_recordSection_of_ok ho]
      refine ⟨⟨?_, ?_⟩, hd⟩
      · rw [List.drop_append_of_le_length hs.le, List.map_append, List.map_append, List.map_append]
        exact hs'
      · rw [List.length_append]
        exact Nat.le_add_right_of_le hs.le
    · rw [outcome_recordSection_of_error ho]
      exact hs
  · have := ensures_fillIssue issue (by exact hd) told.1 p hs.shows
    revert this
    rcases outcome (fillIssue issue details told.1) p with ⟨_ | _, p'⟩
    · exact fun h => ⟨h, hs.le⟩
    · exact fun h => ⟨h, hs.le⟩

/-! ### All steps -/

/-- The table of contents lists all sections recorded. -/
def Tabled (s : Progress × List SectionCall) : Prop :=
  Shows [(tocPlace, s.2.map SectionCall.entry)] (s.2.map SectionCall.heading) s.1

theorem Entered.tabled {n : Nat} (h : Entered list n s) : Tabled s :=
  ⟨h.shows.root?_eq, h.shows.toc?_eq, fun l hl => h.shows.sheltered l (.tail _ hl), h.shows.headed⟩

theorem Listing.entered (h : Listing [(tocPlace, s.2.map SectionCall.entry)] (s.2.map SectionCall.heading)
    block list s.1) : Entered list s.2.length s :=
  ⟨by rw [List.drop_length]; exact h.shows, Nat.le_refl _⟩

theorem Listing.ensures_forM_recordIssue {headings : List (HeaderLevel × String)} {n : Nat}
    (h : Listing [(tocPlace, calls.map SectionCall.entry)] headings block list p) (plan : Plan)
    (issues : List Tracker.Issue) :
    Ensures (Entered list n) (issues.forM (plan.recordIssue block list)) (fun _ => Entered list n)
      (Entered list n) :=
  .forM fun issue _ => ensures_recordIssue plan issue h.clear (h.apart _ (.head _)).1 (h.apart _ (.head _)).2

theorem ensures_recordIssues (plan : Plan) (sources : Sources) :
    Ensures Tabled (plan.recordIssues sources) (fun _ => Tabled) Tabled := by
  refine Ensures.bind (Q := fun opened s => Listing [(tocPlace, s.2.map SectionCall.entry)]
    (s.2.map SectionCall.heading) opened.1 opened.2.1 s.1)
    (.unrecorded fun calls p hp => ensures_openIssues plan sources p hp) fun opened s hs => ?_
  exact ((hs.ensures_forM_recordIssue plan opened.2.2).mono (fun _ => id) (fun _ _ h => h.tabled)
    fun _ h => h.tabled) s hs.entered

/-- What holds of the pamphlet and the record after any steps: the pamphlet is as new, or its opening
has failed, and no section is recorded; or the table of contents lists all sections recorded. -/
inductive Recorded (s : Progress × List SectionCall) : Prop where
  /-- Nothing has been done yet. -/
  | new (hp : s.1.pamphlet = {}) (hc : s.2 = [])
  /-- The opening has failed. -/
  | stuck (hp : s.1.pamphlet.IsStuck) (hc : s.2 = [])
  /-- The opening has come to its end. -/
  | tabled (h : Tabled s)

theorem beginPage_of_begun (plan : Plan) (sources : Sources) (h : p.pamphlet.root?.isSome = true) :
    ∃ fault, outcome (plan.beginPage sources) p = (.error fault, p) := by
  obtain ⟨root, hr⟩ := Option.isSome_iff_exists.mp h
  unfold Plan.beginPage
  cases ht : plan.phrase sources plan.settings.wording.title [] with
  | error fault => exact ⟨fault, outcome_bind_of_error (by rw [outcome_sentence, ht])⟩
  | ok title =>
    rw [outcome_bind_of_ok (by rw [outcome_sentence, ht])]
    exact ⟨_, outcome_bind_of_error (by rw [outcome_onPamphlet, outcome_begin_of_some hr]; rfl)⟩

/-- Before the opening has come to its end no section is found. -/
theorem blockOf_of_unopened (h : p.pamphlet = {} ∨ p.pamphlet.IsStuck) (s : Section) :
    ∃ fault, outcome (blockOf s) p = (.error fault, p) := by
  rw [blockOf, outcome_onPamphlet, outcome_sectionPlace]
  rcases h with h | h
  · have hr : p.pamphlet.root? = none := by rw [h]
    rw [hr]
    exact ⟨_, rfl⟩
  · obtain ⟨root, hr⟩ := Option.isSome_iff_exists.mp h.isSome_root?
    have hn : headingPlace? p.pamphlet.trees root .mainSection s.title = none := by
      cases hp : nodeAt? p.pamphlet.trees root with
      | none => simp [headingPlace?, placesBelow, hp]
      | some page =>
        rw [headingPlace?_eq hp, firstHeader?_eq_none_iff]
        refine List.any_eq_false.mpr fun n hn hh => ?_
        refine List.any_eq_false.mp h.anywhere_eq n ?_ (isNamed_of_isHeader hh)
        obtain ⟨i, r, rfl⟩ := List.exists_cons_of_ne_nil (ne_nil_of_nodeAt? hp)
        exact familyOfAll_subset_of_nodeAt? hp hn
    rw [hr]
    dsimp only
    rw [hn]
    exact ⟨_, rfl⟩

/-- A step other than the opening does nothing before the opening has come to its end. -/
theorem recordStep_of_unopened (plan : Plan) (sources : Sources) (h : p.pamphlet = {} ∨ p.pamphlet.IsStuck)
    {step : Step} (hs : step ≠ .opening) (calls : List SectionCall) :
    (outcome (plan.recordStep sources step) (p, calls)).2 = (p, calls) := by
  have hu {α : Type} (s : Section) (next : Place → Assembling α) :
      ∃ fault, outcome (unrecorded (blockOf s >>= next)) (p, calls) = (.error fault, (p, calls)) := by
    obtain ⟨fault, ho⟩ := blockOf_of_unopened h s
    exact ⟨fault, by rw [outcome_unrecorded, outcome_bind_of_error ho]⟩
  cases step with
  | opening => exact absurd rfl hs
  | overview => exact congrArg Prod.snd (hu .overview _).choose_spec
  | newFeatures => exact congrArg Prod.snd (hu .newFeatures _).choose_spec
  | bugList => exact congrArg Prod.snd (hu .bugFixes _).choose_spec
  | environment => exact congrArg Prod.snd (hu .buildEnvironment _).choose_spec
  | issuesList => exact congrArg Prod.snd (outcome_bind_of_error (hu .issues _).choose_spec)

/-- What is shown when the pamphlet has been opened. -/
theorem shows_opened {title delta : String} (hp : p.pamphlet = (Draft.opened title delta).pamphlet) :
    Tabled (p, Section.all.map Section.call) := by
  suffices h : Tabled ({ p with pamphlet := (Draft.opened title delta).pamphlet },
      Section.all.map Section.call) from h.of_pamphlet_eq hp
  refine ⟨rfl, rfl, ?_, ?_⟩
  · rw [List.forall_mem_singleton]
    exact ⟨rfl, bodyPlace, 1, _, rfl, rfl, rfl⟩
  · intro heading hh
    obtain ⟨call, hcall, rfl⟩ := List.mem_map.mp hh
    obtain ⟨s, -, rfl⟩ := List.mem_map.mp hcall
    exact ⟨1 :: [2 * s.earlier.length + 3], _, List.cons_ne_nil _ _, nodeAt?_heading _ s,
      (isHeader_heading s.title).trans (beq_self_eq_true s.title)⟩

/-- A recorded step keeps the table of contents and the record together, whatever comes of it. -/
theorem recorded_recordStep (plan : Plan) (sources : Sources) (step : Step) (h : Recorded s) :
    Recorded (outcome (plan.recordStep sources step) s).2 := by
  obtain ⟨p, calls⟩ := s
  by_cases hs : step = .opening
  · subst hs
    have hopening : plan.recordStep sources .opening = plan.recordOpening sources := rfl
    rw [hopening]
    have hbegun (hr : p.pamphlet.root?.isSome = true) :
        (outcome (plan.recordOpening sources) (p, calls)).2 = (p, calls) := by
      obtain ⟨fault, ho⟩ := beginPage_of_begun plan sources hr
      exact congrArg Prod.snd (outcome_bind_of_error (by rw [outcome_unrecorded, ho]))
    cases h with
    | new hp hc =>
      change calls = [] at hc
      subst hc
      rcases recordOpening_cases plan sources hp [] with ⟨title, delta, -, -, ho⟩ | ⟨fault, p', ho, hp'⟩
      · rw [ho]
        exact .tabled (shows_opened rfl)
      · rw [ho]
        exact hp'.elim (fun hp' => .new hp' rfl) fun hp' => .stuck hp' rfl
    | stuck hp hc =>
      rw [hbegun hp.isSome_root?]
      exact .stuck hp hc
    | tabled h =>
      rw [hbegun (by rw [show p.pamphlet.root? = some pagePlace from h.root?_eq]; rfl)]
      exact .tabled h
  · cases h with
    | new hp hc =>
      rw [recordStep_of_unopened plan sources (.inl hp) hs]
      exact .new hp hc
    | stuck hp hc =>
      rw [recordStep_of_unopened plan sources (.inr hp) hs]
      exact .stuck hp hc
    | tabled h =>
      refine .tabled (Ensures.after (P := Tabled) ?_ h)
      cases hn : step.addsNoSection with
      | true =>
        rw [recordStep_eq plan sources hn]
        exact .unrecorded fun calls p hp => ensures_takeStep plan sources hn p hp
      | false =>
        obtain rfl : step = .issuesList := by cases step <;> first | rfl | exact absurd rfl hs | cases hn
        exact ensures_recordIssues plan sources

theorem recorded_recordAttempt (plan : Plan) (sources : Sources) (steps : List Step) (h : Recorded s) :
    Recorded (plan.recordAttempt sources steps s) := by
  induction steps generalizing s with
  | nil => exact h
  | cons step steps ih => exact ih (recorded_recordStep plan sources step h)

/-! ### A whole assembly -/

theorem recordSection_eq_ok {here details : Place} {level : HeaderLevel} {name : String} {tocs : List Place}
    {caption? : Option String}
    (h : outcome (recordSection here level name tocs caption?) (p, calls) = (.ok details, (p', calls'))) :
    calls' = calls ++ [⟨level, name, caption?.getD name, details⟩] := by
  rcases ho : outcome (onTrees (addSection here level name tocs caption?)) p with ⟨fault | made, q⟩
  · rw [outcome_recordSection_of_error ho] at h
    cases h
  · rw [outcome_recordSection_of_ok ho] at h
    cases h
    rfl

theorem unrecorded_eq_ok {α : Type} {work : Assembling α} {a : α}
    (h : outcome (unrecorded work) (p, calls) = (.ok a, (p', calls'))) :
    calls' = calls ∧ outcome work p = (.ok a, p') := by
  rw [outcome_unrecorded, Prod.mk.injEq, Prod.mk.injEq] at h
  exact ⟨h.2.2.symm, Prod.ext h.1 h.2.1⟩

/-- An issue that is added is recorded with the entry that is told of it. -/
theorem recordIssue_eq_ok {plan : Plan} {issue : Tracker.Issue} {u : Unit}
    (h : outcome (plan.recordIssue block list issue) (p, calls) = (.ok u, (p', calls'))) :
    ∃ call told, calls' = calls ++ [call] ∧ plan.tell issue = .ok told ∧ call.entry = told.entry := by
  obtain ⟨told, ⟨q, calls1⟩, h1, h⟩ := outcome_bind_eq_ok.mp h
  obtain ⟨r, ⟨q', calls2⟩, h2, h⟩ := outcome_bind_eq_ok.mp h
  obtain ⟨details, ⟨q'', calls3⟩, h3, h4⟩ := outcome_bind_eq_ok.mp h
  obtain ⟨rfl, ha⟩ := unrecorded_eq_ok h1
  obtain ⟨rfl, -⟩ := unrecorded_eq_ok h2
  obtain ⟨rfl, hf⟩ := unrecorded_eq_ok h4
  obtain ⟨hn, hs⟩ := announceIssue_eq_ok ha
  obtain ⟨copied, hc⟩ := exists_noteCopy_of_fillIssue hf
  exact ⟨_, _, recordSection_eq_ok h3, tell_eq_ok hn hs hc, rfl⟩

theorem forM_recordIssue_eq_ok {plan : Plan} {issues : List Tracker.Issue} {u : Unit}
    (h : outcome (issues.forM (plan.recordIssue block list)) (p, calls) = (.ok u, (p', calls'))) :
    ∃ added told, calls' = calls ++ added ∧ issues.mapM plan.tell = .ok told ∧
      added.map SectionCall.entry = told.map Told.entry := by
  induction issues generalizing p calls with
  | nil =>
    cases h
    exact ⟨[], [], (List.append_nil _).symm, rfl, rfl⟩
  | cons issue issues ih =>
    obtain ⟨_, ⟨q, calls1⟩, h1, h⟩ := outcome_bind_eq_ok.mp h
    obtain ⟨call, t, rfl, ht, he⟩ := recordIssue_eq_ok h1
    obtain ⟨added, told, rfl, htold, hadded⟩ := ih h
    refine ⟨call :: added, t :: told, (List.append_cons calls call added).symm, ?_, ?_⟩
    · rw [List.mapM_cons, ht, ok_bind, htold, ok_bind]
      rfl
    · rw [List.map_cons, List.map_cons, he, hadded]

theorem issues_of_openIssues {plan : Plan} {sources : Sources} {opened : Place × Place × List Tracker.Issue}
    (h : outcome (plan.openIssues sources) p = (.ok opened, p')) :
    Tracker.issues sources.notes plan.settings.tracker.noteFilename = .ok opened.2.2 := by
  obtain ⟨block, q, -, h⟩ := outcome_bind_eq_ok.mp h
  obtain ⟨issues, q', hi, h⟩ := outcome_bind_eq_ok.mp h
  obtain ⟨_, _, -, h⟩ := outcome_bind_eq_ok.mp h
  obtain ⟨_, _, -, h⟩ := outcome_bind_eq_ok.mp h
  obtain ⟨_, _, -, h⟩ := outcome_bind_eq_ok.mp h
  cases h
  exact issues_of_readReport hi

theorem ensures_takeShownStep (plan : Plan) (sources : Sources) {step : Step}
    (h : step.addsNoSection = true) :
    Ensures (Shows lists headings) (plan.takeShownStep sources step) (fun _ => Shows lists headings)
      (Shows lists headings) := by
  rw [takeShownStep_eq]
  exact (Reads.announce plan step).ensures_shows.bind fun _ => ensures_takeStep plan sources h

/-- An assembly that comes to the issues has listed the main sections and no more. -/
theorem tabled_of_reach {plan : Plan} {sources : Sources} {start : Progress}
    (h : outcome (plan.reach sources .issuesList) start.anew = (.ok (), p)) :
    Tabled (p, Section.all.map Section.call) := by
  obtain ⟨_, q1, hbefore, ha⟩ := outcome_bind_eq_ok.mp h
  obtain ⟨_, q2, ho, hrest⟩ := outcome_bind_eq_ok.mp
    (show outcome ((Step.opening :: [.overview, .newFeatures, .bugList]).forM _) _ = _ from hbefore)
  obtain ⟨title, delta, -, -, hp2⟩ := exists_opened_of_shown ho
  have h1 := (Ensures.forM (f := plan.takeShownStep sources) (l := [.overview, .newFeatures, .bugList])
    fun step hs => ensures_takeShownStep plan sources (by revert step; decide)).of_ok
      (shows_opened hp2) hrest
  exact (Reads.announce plan .issuesList).ensures_shows.of_ok h1 ha

/-- An assembly that comes to its end has come to its issues, has added the section of each of them, and has then
listed the build environment. -/
theorem exists_recorded_of_assemble {plan : Plan} {sources : Sources} {start : Progress}
    (h : outcome (plan.assemble sources) start.anew = (.ok (), p')) : ∃ opened mid r calls,
      outcome (plan.reach sources .issuesList >>= fun _ => plan.openIssues sources) start.anew = (.ok opened, mid) ∧
      Tracker.issues sources.notes plan.settings.tracker.noteFilename = .ok opened.2.2 ∧
      Listing [(tocPlace, (Section.all.map Section.call).map SectionCall.entry)]
        ((Section.all.map Section.call).map SectionCall.heading) opened.1 opened.2.1 mid ∧
      outcome (opened.2.2.forM (plan.recordIssue opened.1 opened.2.1)) (mid, Section.all.map Section.call) =
        (.ok (), (r, calls)) ∧
      outcome (plan.takeShownStep sources .environment) r = (.ok (), p') := by
  obtain ⟨after, q, r, hall, hreach, htake, hafter⟩ := exists_reach_of_assemble h .issuesList
  obtain rfl : [Step.environment] = after := by
    rw [show Step.all = Step.before .issuesList ++ .issuesList :: [.environment] from rfl,
      List.append_cancel_left_eq, List.cons.injEq] at hall
    exact hall.2
  -- the first four steps open the pamphlet and add no section besides
  have hq := tabled_of_reach hreach
  -- the fifth step adds one section for each issue
  obtain ⟨calls, htake⟩ := (erases_recordStep plan sources .issuesList).exists_of_ok htake
    (Section.all.map Section.call)
  obtain ⟨opened, ⟨mid, calls1⟩, hunrecorded, hissues⟩ := outcome_bind_eq_ok.mp
    (show outcome (plan.recordIssues sources) _ = _ from htake)
  obtain ⟨rfl, hopen⟩ := unrecorded_eq_ok hunrecorded
  rw [outcome_forM_cons] at hafter
  obtain ⟨_, p'', hlast, hend⟩ := outcome_bind_eq_ok.mp hafter
  cases hend
  exact ⟨opened, mid, r, calls, (outcome_bind_of_ok hreach).trans hopen, issues_of_openIssues hopen,
    (ensures_openIssues plan sources).of_ok hq hopen, hissues, hlast⟩

/-- What an assembly that comes to its end has listed: the sections, and then the issues, which the
list in their own section holds, too. -/
theorem exists_entries_of_assemble {plan : Plan} {sources : Sources} {start : Progress}
    (h : outcome (plan.assemble sources) start.anew = (.ok (), p')) : ∃ issues told opened mid,
      Tracker.issues sources.notes plan.settings.tracker.noteFilename = .ok issues ∧
      issues.mapM plan.tell = .ok told ∧
      outcome (plan.reach sources .issuesList >>= fun _ => plan.openIssues sources) start.anew =
        (.ok opened, mid) ∧
      ∃ headings, Shows [(opened.2.1, told.map Told.entry),
        (tocPlace, Section.all.map Section.entry ++ told.map Told.entry)] headings p' := by
  obtain ⟨opened, mid, r, calls, hopen, hread, hlisting, hissues, hlast⟩ := exists_recorded_of_assemble h
  have hentered := (hlisting.ensures_forM_recordIssue plan opened.2.2).of_ok
    (hlisting.entered (s := (mid, Section.all.map Section.call))) hissues
  obtain ⟨added, told, rfl, htold, hadded⟩ := forM_recordIssue_eq_ok hissues
  have hshows := hentered.shows
  rw [List.drop_left, List.map_append, hadded] at hshows
  -- the last step adds no section
  exact ⟨opened.2.2, _, opened, mid, hread, htold, hopen, _,
    (ensures_takeShownStep plan sources rfl).of_ok hshows hlast⟩

/-- A list of entries stands at a place. -/
def Pamphlet.Lists (p : Pamphlet) (q : Place) (entries : List (String × String)) : Prop :=
  nodeAt? p.trees q = some (Layout.holder .list (Layout.entries entries))

/-- Every one of some sections has a heading in the page with an anchor of its name. -/
def Pamphlet.Heads (p : Pamphlet) (calls : List SectionCall) : Prop :=
  ∃ page, p.page? = some page ∧
    ∀ call ∈ calls, ∃ n ∈ page.descendants call.level.label, isHeading call.name n = true

/-- The table of contents of a pamphlet, once it has one, lists some sections, and all of them have a
heading. Before there is one there are no sections. -/
def Pamphlet.Tables (p : Pamphlet) (calls : List SectionCall) : Prop :=
  match p.toc? with
  | none => calls = []
  | some toc => p.Lists toc (calls.map SectionCall.entry) ∧ p.Heads calls

theorem Tabled.heads (h : Tabled (p, calls)) : p.pamphlet.Heads calls := by
  have hpage : pagePlace ≠ [] := List.cons_ne_nil 0 []
  obtain ⟨page, hp⟩ := exists_nodeAt?_of_prefix hpage (show pagePlace <+: tocPlace from ⟨[1, 2], rfl⟩)
    (h.sheltered _ (.head _)).nodeAt?_eq
  refine ⟨page, by rw [Pamphlet.page?, show p.pamphlet.root? = _ from h.root?_eq]; exact hp,
    fun call hc => ?_⟩
  obtain ⟨r, n, hr, hn, hi⟩ := h.headed call.heading (List.mem_map_of_mem hc)
  rw [nodeAt?_append hpage hr, hp] at hn
  rw [isHeader, Bool.and_eq_true] at hi
  exact ⟨n, List.mem_filter.mpr ⟨mem_familyOfAll_of_nodeAt? hn, hi.1⟩, hi.2⟩

theorem Recorded.tables (h : Recorded s) : s.1.pamphlet.Tables s.2 := by
  unfold Pamphlet.Tables
  cases h with
  | new hp hc =>
    rw [hp]
    exact hc
  | stuck hp hc =>
    rw [hp.toc?_eq]
    exact hc
  | tabled h =>
    rw [h.toc?_eq]
    exact ⟨(h.sheltered _ (.head _)).nodeAt?_eq, Tabled.heads h⟩

/-- A section that a document cannot hold leaves every table of contents as it is. -/
theorem nodeAt?_addSection_of_illegal {tocs : List Place} {name : String} {caption? : Option String}
    {toc : Place}
    (hl : (isLegalText (caption?.getD name) && isLegalText name) = false) (ht : toc ∈ tocs) (here : Place)
    (level : HeaderLevel) (content : List Node) :
    nodeAt? (outcome (addSection here level name tocs caption?) content).2 toc = nodeAt? content toc := by
  rw [outcome_addSection_of_illegal hl (List.ne_nil_of_mem ht)]

/-- **The table of contents is that of the sections.** Whatever steps have been tried, it lists the
sections that have been added, one entry for each in order, and every entry leads to a heading; a
section with a text that a document cannot hold adds to no list; and once everything has been
assembled, it lists the main sections and then the issues of the report, which the list in their
own section holds, too. -/
theorem toc_lists_sections (plan : Plan) (sources : Sources) (start : Progress) :
    (∀ steps, (plan.recordAttempt sources steps (start.anew, [])).1 = plan.attempt sources steps start.anew ∧
      (plan.attempt sources steps start.anew).pamphlet.Tables
        (plan.recordAttempt sources steps (start.anew, [])).2) ∧
    (∀ here level name tocs caption? content toc, toc ∈ tocs →
      (isLegalText (caption?.getD name) && isLegalText name) = false →
        nodeAt? (outcome (addSection here level name tocs caption?) content).2 toc = nodeAt? content toc) ∧
    ∀ p, outcome (plan.assemble sources) start.anew = (.ok (), p) → ∃ issues told toc opened mid,
      Tracker.issues sources.notes plan.settings.tracker.noteFilename = .ok issues ∧
      issues.mapM plan.tell = .ok told ∧
      p.pamphlet.toc? = some toc ∧
      p.pamphlet.Lists toc (Section.all.map Section.entry ++ told.map Told.entry) ∧
      (Section.all.map Section.entry ++ told.map Told.entry).length = 5 + issues.length ∧
      outcome (plan.reach sources .issuesList >>= fun _ => plan.openIssues sources) start.anew =
        (.ok opened, mid) ∧
      p.pamphlet.Lists opened.2.1 (told.map Told.entry) := by
  refine ⟨fun steps => ?_, fun here level name tocs caption? content toc ht hl =>
    nodeAt?_addSection_of_illegal hl ht here level content, fun p h => ?_⟩
  · have hr := recordAttempt_fst plan sources steps (start.anew, [])
    exact ⟨hr, hr ▸ (recorded_recordAttempt plan sources steps (s := (start.anew, [])) (.new rfl rfl)).tables⟩
  · obtain ⟨issues, told, opened, mid, hissues, htold, hopen, headings, hs⟩ := exists_entries_of_assemble h
    refine ⟨issues, told, tocPlace, opened, mid, hissues, htold, hs.toc?_eq,
      (hs.sheltered _ (.tail _ (.head _))).nodeAt?_eq, ?_, hopen, (hs.sheltered _ (.head _)).nodeAt?_eq⟩
    rw [List.length_append, List.length_map, List.length_map, ← (mapM_eq_ok_iff_forall₂.mp htold).length_eq]
    rfl

/-- The table of contents of the small release has its five sections and its two issues, and a section
whose name is no text of a document does not come into it. -/
theorem toc_lists_sections_small :
    ∃ p toc entries, outcome (smallPlan.assemble (smallSources [.text "o"])) ({} : Progress).anew =
      (.ok (), p) ∧
      p.pamphlet.toc? = some toc ∧ p.pamphlet.Lists toc entries ∧ entries.length = 5 + 2 ∧
      nodeAt? (outcome (addSection bodyPlace .issueDetail "\x00" [toc] none) p.pamphlet.trees).2 toc =
        nodeAt? p.pamphlet.trees toc := by
  have hall := toc_lists_sections smallPlan (smallSources [.text "o"]) {}
  obtain ⟨_, p, h⟩ := exists_of_isOk (m := smallPlan.assemble (smallSources [.text "o"]))
    (s := ({} : Progress).anew)
    (by decide +kernel)
  obtain ⟨issues, told, toc, -, -, hissues, -, htoc, hlists, hlength, -, -⟩ := hall.2.2 p h
  have htwo : (Tracker.issues (smallSources [.text "o"]).notes
    smallPlan.settings.tracker.noteFilename).toOption.map
      List.length = some 2 := by decide +kernel
  rw [hissues] at htwo
  have hissues2 : issues.length = 2 := Option.some.inj htwo
  exact ⟨p, toc, _, h, htoc, hlists, by rw [hlength, hissues2],
    hall.2.1 _ _ _ _ _ _ _ (List.mem_singleton.mpr rfl) (by decide)⟩

end ReleaseNotes
