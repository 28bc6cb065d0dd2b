import Mathlib.Data.List.Induction
import ReleaseNotes.Proofs.Filling

/-!
# Where the sections are found

A section is looked for among all that has been added so far, which may be any markup that was copied
from the summary or from a detailed note. Every search of an assembly ends at the block that the
opening made for the section if and only if nothing that was copied before that block holds a heading
over a section with that name (`found_where_opened_iff`). As long as the searches end there, the page
is a draft whose blocks hold what they are to hold (`exists_draftWith`). A heading in the overview is
enough to mislead the step of the new features (`newFeatures_found_in_overview`).
-/

namespace ReleaseNotes

open Markup

variable {plan : Plan} {sources : Sources} {start p p' : Progress} {s t : Section} {l rest : List Section}
  {name title delta : String}

/-! ### What is copied -/

/-- The copies in the block of a section: of a field of the summary, or of detailed notes. -/
def Plan.copies (plan : Plan) (sources : Sources) : Section → List (List Node)
  | .overview => (sources.fieldCopy .overview).toOption.toList
  | .newFeatures => (sources.fieldCopy .newFeatures).toOption.toList
  | .issues => ((plan.tellAll sources).toOption.getD []).map Told.details
  | .bugFixes | .buildEnvironment => []

theorem anywhere_rows (pages : String) (bugs : List Tracker.Issue) :
    anywhere (isHeader .mainSection name)
      (bugs.map fun bug => Layout.bugRow (bug.pageUrl pages) bug.key bug.title) = false := by
  induction bugs with
  | nil => rfl
  | cons bug bugs ih =>
    rw [List.map_cons, Layout.bugRow, Layout.holder, anywhere_element, ih]
    simp [Layout.holder, Layout.linked]

theorem anywhere_table (width pages : String) (bugs : List Tracker.Issue) :
    anywhere (isHeader .mainSection name) [Layout.table width bugHeadings
      (bugs.map fun bug => Layout.bugRow (bug.pageUrl pages) bug.key bug.title)] = false := by
  rw [Layout.table, Layout.holder, anywhere_element, anywhere_element, anywhere_rows]
  simp [Layout.holder, bugHeadings]

theorem anywhere_told (told : List Told) :
    anywhere (isHeader .mainSection name) (told.flatMap Told.nodes) =
      told.any fun t => anywhere (isHeader .mainSection name) t.details := by
  induction told with
  | nil => rfl
  | cons t told ih =>
    rw [List.flatMap_cons, anywhere_append, ih, List.any_cons, Told.nodes, Layout.headed, Layout.holder,
      anywhere_element, anywhere_heading fun _ => isNamed_of_isHeader,
      isHeader_of_not_isNamed (isNamed_heading (by decide))]
    simp [Layout.holder]

theorem anywhere_issuesContent (intro : String) (told : List Told) :
    anywhere (isHeader .mainSection name) (issuesContent intro told) =
      told.any fun t => anywhere (isHeader .mainSection name) t.details := by
  rw [issuesContent, anywhere_append, anywhere_told]
  simp [Layout.paragraph, Layout.holder,
    anywhere_eq_false_of_imp (fun _ => isNamed_of_isHeader) (anywhere_entries .mainSection _)]

/-- Before the build environment, a heading over a main section stands in a block only if it was
copied there. -/
theorem anywhere_filling {content : List Node} {entries : List (String × String)} (ht : t ≠ .buildEnvironment)
    (h : plan.filling sources t = .ok (content, entries)) :
    anywhere (isHeader .mainSection name) content = false ↔
      ∀ copied ∈ plan.copies sources t, anywhere (isHeader .mainSection name) copied = false := by
  cases t with
  | overview | newFeatures =>
    obtain ⟨copied, hc, h⟩ := bind_eq_ok.mp h
    cases h
    rw [Plan.copies, hc]
    exact (List.forall_mem_singleton (p := fun c => anywhere _ c = false)).symm
  | bugFixes =>
    obtain ⟨content', hc, h⟩ := bind_eq_ok.mp h
    cases h
    obtain ⟨bugs, -, hc⟩ := bind_eq_ok.mp hc
    obtain ⟨intro, -, hc⟩ := bind_eq_ok.mp hc
    obtain ⟨width, -, hc⟩ := bind_eq_ok.mp hc
    cases hc
    refine iff_of_true ?_ (fun _ hm => by cases hm)
    rw [Layout.paragraph, Layout.holder, anywhere_element, anywhere_table]
    simp
  | issues =>
    obtain ⟨intro, -, h⟩ := bind_eq_ok.mp h
    obtain ⟨told, htold, h⟩ := bind_eq_ok.mp h
    cases h
    rw [anywhere_issuesContent, Plan.copies, htold, List.any_eq_false]
    simp [Except.toOption]
  | buildEnvironment => exact absurd rfl ht

/-! ### Runs that find their sections -/

/-- A section is found where the opening puts it, whenever an assembly looks for it. -/
def Plan.Finds (plan : Plan) (sources : Sources) (start : Progress) (s : Section) : Prop :=
  ∀ p, outcome (plan.reach sources s.step) start.anew = (.ok (), p) → (outcome (blockOf s) p).1 = .ok s.block

/-- What the block of a section comes to hold and the entries that come with it, or nothing. -/
def Plan.contentOf (plan : Plan) (sources : Sources) (s : Section) : List Node × List (String × String) :=
  (plan.filling sources s).toOption.getD ([], [])

/-- The draft in which some of the sections hold what they come to hold. -/
def Plan.draftWith (plan : Plan) (sources : Sources) (title delta : String) (l : List Section) : Draft where
  title := title
  delta := delta
  entries := Section.all.map Section.entry ++ l.flatMap fun s => (plan.contentOf sources s).2
  blocks s := if s ∈ l then (plan.contentOf sources s).1 else []

theorem contentOf_eq {content : List Node × List (String × String)}
    (h : plan.filling sources s = .ok content) : plan.contentOf sources s = content := by
  rw [Plan.contentOf, h]
  rfl

theorem draftWith_snoc {content : List Node} {entries : List (String × String)}
    (h : plan.filling sources s = .ok (content, entries)) :
    plan.draftWith sources title delta (l ++ [s]) =
      ((plan.draftWith sources title delta l).enterAll entries).fill s content := by
  have hb : (plan.draftWith sources title delta (l ++ [s])).blocks =
      Function.update (plan.draftWith sources title delta l).blocks s content := by
    funext t
    by_cases ht : t = s
    · subst ht
      rw [Function.update_self]
      exact (if_pos (by simp)).trans (by rw [contentOf_eq h])
    · rw [Function.update_of_ne ht]
      exact if_congr (by simp [ht]) rfl rfl
  have he : (plan.draftWith sources title delta (l ++ [s])).entries =
      (plan.draftWith sources title delta l).entries ++ entries := by
    show _ ++ (l ++ [s]).flatMap _ = _ ++ l.flatMap _ ++ _
    rw [List.flatMap_append, List.flatMap_singleton, contentOf_eq h, List.append_assoc]
  exact congrArg₂ (Draft.mk title delta) he hb

theorem before_step (s : Section) : s.step.before = .opening :: s.earlier.map Section.step := by
  cases s <;> rfl

/-- The steps up to some section, each of which finds its section, leave a draft in which the sections
before hold what they come to hold. -/
theorem exists_draftWith (hall : Section.all = l ++ rest) (hf : ∀ t ∈ l, plan.Finds sources start t)
    (h : outcome ((Step.opening :: l.map Section.step).forM (plan.takeShownStep sources)) start.anew =
      (.ok (), p)) :
    ∃ title delta, plan.phrase sources plan.settings.wording.title [] = .ok title ∧
      plan.phrase sources plan.settings.wording.delta [] = .ok delta ∧
      (∀ t ∈ l, ∃ content, plan.filling sources t = .ok content) ∧
      p.pamphlet = (plan.draftWith sources title delta l).pamphlet := by
  induction l using List.reverseRecOn generalizing rest p with
  | nil =>
    rw [List.map_nil, outcome_forM_cons] at h
    obtain ⟨_, q, hq, h⟩ := outcome_bind_eq_ok.mp h
    cases h
    obtain ⟨title, delta, ht, hd, hp⟩ := exists_opened_of_shown hq
    exact ⟨title, delta, ht, hd, fun _ hm => (List.not_mem_nil hm).elim, hp⟩
  | append_singleton l s ih =>
    rw [List.append_assoc] at hall
    have hl : s.earlier = l := Section.earlier_eq hall
    rw [List.map_append, List.map_singleton, ← List.cons_append, outcome_forM_append] at h
    obtain ⟨_, q, hq, h⟩ := outcome_bind_eq_ok.mp h
    obtain ⟨title, delta, ht, hd, hc, hp⟩ := ih hall (fun t hm => hf t (List.mem_append_left _ hm)) hq
    rw [outcome_forM_cons, takeShownStep_eq] at h
    obtain ⟨_, p', h, hend⟩ := outcome_bind_eq_ok.mp h
    cases hend
    obtain ⟨_, q', ha, hs⟩ := outcome_bind_eq_ok.mp h
    have hreach : outcome (plan.reach sources s.step) start.anew = (.ok (), q') := by
      rw [Plan.reach, before_step, hl]
      exact outcome_bind_eq_ok.mpr ⟨_, q, hq, ha⟩
    have hnot : s ∉ l := fun hm => Section.title_ne_of_mem_earlier (hl ▸ hm) rfl
    obtain ⟨content, entries, hfill, hp'⟩ := exists_filling_of_takeStep
      ((Reads.announce plan s.step).pamphlet_eq hp ha) (if_neg hnot)
      (hf s (List.mem_append_right _ (.head _)) q' hreach) hs
    refine ⟨title, delta, ht, hd, ?_, by rw [draftWith_snoc hfill]; exact hp'⟩
    rw [List.forall_mem_append, List.forall_mem_singleton]
    exact ⟨hc, _, hfill⟩

/-! ### Searches that go astray -/

theorem ne_buildEnvironment_of_mem_earlier (h : t ∈ s.earlier) : t ≠ .buildEnvironment := by
  revert t
  cases s <;> decide

/-- A section whose earlier sections are all found is found itself if and only if nothing copied
before it holds a heading with its name. -/
theorem finds_iff (hf : ∀ t ∈ s.earlier, plan.Finds sources start t) :
    plan.Finds sources start s ↔
      ∀ p, outcome (plan.reach sources s.step) start.anew = (.ok (), p) → ∀ t ∈ s.earlier,
        ∀ copied ∈ plan.copies sources t, anywhere (isHeader .mainSection s.title) copied = false := by
  refine forall_congr' fun p => imp_congr_right fun hreach => ?_
  rw [Plan.reach, before_step] at hreach
  obtain ⟨_, q, hq, ha⟩ := outcome_bind_eq_ok.mp hreach
  obtain ⟨later, hall⟩ := s.exists_all_eq
  obtain ⟨title, delta, -, -, hc, hp⟩ := exists_draftWith hall hf hq
  rw [blockOf_eq_block_iff ((Reads.announce plan s.step).pamphlet_eq hp ha)]
  refine forall₂_congr fun t ht => ?_
  obtain ⟨⟨content, entries⟩, hfill⟩ := hc t ht
  have hb : (plan.draftWith sources title delta s.earlier).blocks t = content :=
    (if_pos ht).trans (by rw [contentOf_eq hfill])
  rw [hb, anywhere_filling (ne_buildEnvironment_of_mem_earlier ht) hfill]

theorem length_earlier_lt (h : t ∈ s.earlier) : t.earlier.length < s.earlier.length := by
  revert t
  cases s <;> decide

/-- What holds of a section if it holds of those before it holds of every section. -/
theorem Section.induct_earlier {P : Section → Prop} (h : ∀ s, (∀ t ∈ s.earlier, P t) → P s) (s : Section) :
    P s := by
  induction hn : s.earlier.length using Nat.strongRecOn generalizing s with
  | _ n ih => exact h s fun t ht => ih _ (hn ▸ length_earlier_lt ht) t rfl

/-- The sections that the opening of an assembly adds, each with the place of its block. -/
def Plan.openingCalls (plan : Plan) (sources : Sources) (start : Progress) : List SectionCall :=
  (outcome (unrecorded (plan.announce .opening) >>= fun _ => plan.recordStep sources .opening)
    (start.anew, [])).2.2

theorem openingCalls_eq {u : Unit}
    (h : outcome (plan.takeShownStep sources .opening) start.anew = (.ok u, p)) :
    plan.openingCalls sources start = Section.all.map Section.call := by
  rw [takeShownStep_eq] at h
  obtain ⟨_, q, ha, ho⟩ := outcome_bind_eq_ok.mp h
  have hq : q.pamphlet = {} := (congrArg (·.2.pamphlet) ha).symm.trans
    (Reads.announce plan .opening start.anew)
  obtain ⟨calls, hr⟩ := (erases_recordStep plan sources .opening).exists_of_ok ho []
  rw [Plan.openingCalls, outcome_bind_of_ok (by rw [outcome_unrecorded, ha]), hr]
  change outcome (plan.recordOpening sources) (q, []) = _ at hr
  rcases recordOpening_cases plan sources hq [] with ⟨title, delta, -, -, ho⟩ | ⟨fault, p', ho, -⟩
  · rw [hr, Prod.mk.injEq, Prod.mk.injEq] at ho
    exact ho.2.2
  · rw [hr] at ho
    cases ho

theorem openingCalls_of_reach (h : outcome (plan.reach sources s.step) start.anew = (.ok (), p)) :
    plan.openingCalls sources start = Section.all.map Section.call := by
  rw [Plan.reach, before_step] at h
  obtain ⟨_, q, hq, -⟩ := outcome_bind_eq_ok.mp h
  rw [outcome_forM_cons] at hq
  obtain ⟨_, q', ho, -⟩ := outcome_bind_eq_ok.mp hq
  exact openingCalls_eq ho

theorem exists_call_iff (s : Section) (p : Progress) :
    (∃ call ∈ Section.all.map Section.call, call.name = s.title ∧
      outcome (blockOf s) p = (.ok call.block, p)) ↔
      (outcome (blockOf s) p).1 = .ok s.block := by
  rw [outcome_blockOf]
  constructor
  · rintro ⟨_, hc, hn, ho⟩
    obtain ⟨t, -, rfl⟩ := List.mem_map.mp hc
    obtain rfl : t = s := by
      revert hn
      cases s <;> cases t <;> decide
    exact (Prod.mk.inj ho).1
  · exact fun h => ⟨s.call, List.mem_map_of_mem (by cases s <;> decide), rfl, by rw [h]; rfl⟩

/-- **Every search of an assembly ends at the block that the opening made for its section** if and only
if, whenever the assembly comes to the step of a section, nothing copied into the blocks before that
section holds a heading with its name. -/
theorem found_where_opened_iff (plan : Plan) (sources : Sources) (start : Progress) :
    (∀ s p, outcome (plan.reach sources s.step) start.anew = (.ok (), p) →
      ∃ call ∈ plan.openingCalls sources start, call.name = s.title ∧
        outcome (blockOf s) p = (.ok call.block, p)) ↔
    ∀ (s : Section) (p : Progress), outcome (plan.reach sources s.step) start.anew = (.ok (), p) →
      ∀ t ∈ s.earlier, ∀ copied ∈ plan.copies sources t,
        anywhere (isHeader .mainSection s.title) copied = false := by
  have hfound (s : Section) : (∀ p, outcome (plan.reach sources s.step) start.anew = (.ok (), p) →
      ∃ call ∈ plan.openingCalls sources start, call.name = s.title ∧
        outcome (blockOf s) p = (.ok call.block, p)) ↔ plan.Finds sources start s := by
    refine forall_congr' fun p => imp_congr_right fun hreach => ?_
    rw [openingCalls_of_reach hreach, exists_call_iff]
  rw [forall_congr' hfound]
  constructor
  · exact fun h s => (finds_iff fun t _ => h t).mp (h s)
  · exact fun h => Section.induct_earlier fun s hs => (finds_iff hs).mpr (h s)

/-- An overview with a heading that bears the name of the new features. -/
def misleadingOverview : List Node :=
  [.element (.plain HeaderLevel.mainSection.label [])
    [.element (.plain PageElement.anchor.label [.plain "name" Section.newFeatures.title]) []],
   .element (.plain PageElement.paragraph.label []) [.text "x"]]

/-- The new features are found in the overview if that holds a heading with their name. -/
theorem newFeatures_found_in_overview :
    ∃ p, outcome (smallPlan.reach (smallSources misleadingOverview) Section.newFeatures.step)
      ({} : Progress).anew =
        (.ok (), p) ∧
      outcome (blockOf .newFeatures) p = (.ok (Section.overview.block ++ [1]), p) ∧
      ∀ call ∈ smallPlan.openingCalls (smallSources misleadingOverview) {},
        outcome (blockOf .newFeatures) p ≠ (.ok call.block, p) := by
  obtain ⟨_, p, hreach⟩ := exists_of_isOk
    (m := smallPlan.reach (smallSources misleadingOverview) .newFeatures)
    (s := ({} : Progress).anew) (by decide +kernel)
  have hplace : (outcome (blockOf .newFeatures) (outcome (smallPlan.reach (smallSources misleadingOverview)
      .newFeatures) ({} : Progress).anew).2).1.toOption = some (Section.overview.block ++ [1]) := by
    decide +kernel
  have hfound : outcome (blockOf .newFeatures) p = (.ok (Section.overview.block ++ [1]), p) := by
    rw [hreach] at hplace
    rw [outcome_blockOf]
    cases ho : (outcome (blockOf .newFeatures) p).1 with
    | error fault => rw [ho] at hplace; cases hplace
    | ok block => rw [ho] at hplace; cases hplace; rfl
  refine ⟨p, hreach, hfound, fun call hc he => ?_⟩
  rw [openingCalls_of_reach (s := .newFeatures) hreach] at hc
  have hblock : ∀ call ∈ Section.all.map Section.call, call.block ≠ Section.overview.block ++ [1] := by decide
  rw [hfound, Prod.mk.injEq, Except.ok.injEq] at he
  exact hblock call hc he.1.symm

end ReleaseNotes
