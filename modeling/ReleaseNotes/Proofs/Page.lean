import ReleaseNotes.Proofs.Routing

/-!
# The finished page

The page that a plan and its documents come to is set down without steps and searches (`Plan.draft`):
the banner with its paragraph, the table of contents, and the five sections, each with what was copied,
listed or told for it. An assembly that comes to its end has made exactly that page, whatever markup was
copied, as long as no copy holds a heading over one of the five sections (`page_eq_of_assemble`).
-/

namespace ReleaseNotes

open Markup

variable {plan : Plan} {sources : Sources} {title delta : String}

/-- The page that a plan and its documents come to. -/
def Plan.draft (plan : Plan) (sources : Sources) : Except AssemblyFault Draft := do
  let title ← plan.phrase sources plan.settings.wording.title []
  let delta ← plan.phrase sources plan.settings.wording.delta []
  let overview ← sources.fieldCopy .overview
  let newFeatures ← sources.fieldCopy .newFeatures
  let bugs ← plan.bugContent sources
  let intro ← plan.phrase sources plan.settings.wording.issues []
  let told ← plan.tellAll sources
  let environment ← plan.environmentContent sources
  return {
    title
    delta
    entries := Section.all.map Section.entry ++ told.map Told.entry
    blocks := fun
      | .overview => overview
      | .newFeatures => newFeatures
      | .bugFixes => bugs
      | .issues => issuesContent intro told
      | .buildEnvironment => environment }

theorem Section.mem_all (s : Section) : s ∈ Section.all := by
  cases s <;> decide

/-- A page of which every section can be filled comes to be, with every section filled. -/
theorem draft_eq_draftWith (ht : plan.phrase sources plan.settings.wording.title [] = .ok title)
    (hd : plan.phrase sources plan.settings.wording.delta [] = .ok delta)
    (hf : ∀ s ∈ Section.all, ∃ content, plan.filling sources s = .ok content) :
    plan.draft sources = .ok (plan.draftWith sources title delta Section.all) := by
  obtain ⟨_, h1⟩ := hf .overview (Section.mem_all _)
  obtain ⟨_, h2⟩ := hf .newFeatures (Section.mem_all _)
  obtain ⟨_, h3⟩ := hf .bugFixes (Section.mem_all _)
  obtain ⟨_, h4⟩ := hf .issues (Section.mem_all _)
  obtain ⟨_, h5⟩ := hf .buildEnvironment (Section.mem_all _)
  have c1 := contentOf_eq h1
  have c2 := contentOf_eq h2
  have c3 := contentOf_eq h3
  have c4 := contentOf_eq h4
  have c5 := contentOf_eq h5
  obtain ⟨overview, hoverview, h1⟩ := bind_eq_ok.mp h1
  obtain ⟨newFeatures, hnewFeatures, h2⟩ := bind_eq_ok.mp h2
  obtain ⟨bugs, hbugs, h3⟩ := bind_eq_ok.mp h3
  obtain ⟨intro, hintro, h4⟩ := bind_eq_ok.mp h4
  obtain ⟨told, htold, h4⟩ := bind_eq_ok.mp h4
  obtain ⟨environment, henvironment, h5⟩ := bind_eq_ok.mp h5
  cases h1; cases h2; cases h3; cases h4; cases h5
  rw [Plan.draft, ht, ok_bind, hd, ok_bind, hoverview, ok_bind, hnewFeatures, ok_bind, hbugs, ok_bind,
    hintro, ok_bind, htold, ok_bind, henvironment, ok_bind]
  refine congrArg Except.ok (congrArg₂ (Draft.mk title delta) ?_ (funext fun s => ?_))
  · refine congrArg _ (Eq.symm ?_)
    rw [Section.all]
    simp only [List.flatMap_cons, List.flatMap_nil, c1, c2, c3, c4, c5, List.nil_append, List.append_nil]
  · rw [if_pos s.mem_all]
    cases s with
    | overview => rw [c1]
    | newFeatures => rw [c2]
    | bugFixes => rw [c3]
    | issues => rw [c4]
    | buildEnvironment => rw [c5]

/-- **An assembly that comes to its end has made exactly the page that its plan and its documents come
to**, if no copy holds a heading over one of the sections. -/
theorem page_eq_of_assemble {start p : Progress}
    (hc : ∀ t, ∀ copied ∈ plan.copies sources t, ∀ s : Section,
      anywhere (isHeader .mainSection s.title) copied = false)
    (h : outcome (plan.assemble sources) start.anew = (.ok (), p)) :
    ∃ d, plan.draft sources = .ok d ∧ p.pamphlet.page? = some d.page := by
  have hf (s : Section) : plan.Finds sources start s :=
    s.induct_earlier fun s hs => (finds_iff hs).mpr fun _ _ t _ copied hm => hc t copied hm s
  obtain ⟨title, delta, ht, hd, hfill, hp⟩ := exists_draftWith (List.append_nil _).symm (fun t _ => hf t) h
  refine ⟨_, draft_eq_draftWith ht hd hfill, ?_⟩
  rw [hp]
  rfl

/-- The small release comes to its page although its overview has a heading of its own. -/
theorem page_eq_of_assemble_small :
    ∃ p d, outcome (smallPlan.assemble (smallSources (Layout.headed .mainSection "News" [])))
      ({} : Progress).anew =
        (.ok (), p) ∧
      smallPlan.draft (smallSources (Layout.headed .mainSection "News" [])) = .ok d ∧
      p.pamphlet.page? = some d.page := by
  have hc : ∀ t ∈ Section.all, ∀ copied ∈ smallPlan.copies (smallSources (Layout.headed .mainSection "News" [])) t,
      ∀ s ∈ Section.all, anywhere (isHeader .mainSection s.title) copied = false := by decide +kernel
  obtain ⟨_, p, h⟩ := exists_of_isOk
    (m := smallPlan.assemble (smallSources (Layout.headed .mainSection "News" [])))
    (s := ({} : Progress).anew) (by decide +kernel)
  obtain ⟨d, hd, hp⟩ := page_eq_of_assemble
    (fun t copied hm s => hc t t.mem_all copied hm s s.mem_all) h
  exact ⟨p, d, h, hd, hp⟩

end ReleaseNotes
