import Mathlib.Logic.Relation
import Mathlib.Tactic.ByContra
import ReleaseNotes.Download.Failure

/-!
# What is behind a failure

Failures are linked to each other, and the links may lead in circles. The search for a host that cannot be
found follows them and passes over what it has seen. It finds one exactly if some links lead to one
(`Failures.isUnknownHost_iff`): what it finds is reached along links (`Failures.leadsToHost_of_search`), and
where it finds none, what it has seen is closed under links and holds none
(`Failures.exists_closed_of_search`).
-/

namespace ReleaseNotes

variable {g : Failures} {i j : Nat} {unseen pending : List Nat}

/-- One failure is linked to another. -/
def Failures.Links (g : Failures) (i j : Nat) : Prop :=
  j ∈ g.linksOf i

/-- Some links lead from a failure to a host that cannot be found. -/
def Failures.LeadsToHost (g : Failures) (i : Nat) : Prop :=
  ∃ j, Relation.ReflTransGen g.Links i j ∧ g.isHostAt j = true

theorem Failures.leadsToHost_of_links (h : g.Links i j) (hj : g.LeadsToHost j) : g.LeadsToHost i := by
  obtain ⟨k, hk, hhost⟩ := hj
  exact ⟨k, .head h hk, hhost⟩

/-- The search finds only what is behind something pending. -/
theorem Failures.leadsToHost_of_search (h : g.search unseen pending = true) :
    ∃ i ∈ pending, g.LeadsToHost i := by
  fun_induction Failures.search g unseen pending with
  | case1 => cases h
  | case2 unseen i rest hi ih =>
    rcases Bool.or_eq_true_iff.mp h with hhost | hrest
    · exact ⟨i, .head _, i, .refl, hhost⟩
    · obtain ⟨j, hj, hleads⟩ := ih hrest
      rcases List.mem_append.mp hj with hj | hj
      · exact ⟨i, .head _, leadsToHost_of_links hj hleads⟩
      · exact ⟨j, .tail _ hj, hleads⟩
  | case3 unseen i rest hi ih =>
    obtain ⟨j, hj, hleads⟩ := ih h
    exact ⟨j, .tail _ hj, hleads⟩

/-- Some failures none of which is that of a host, and whose links stay among them. -/
structure Failures.IsClosed (g : Failures) (among : Nat → Prop) : Prop where
  isHostAt_eq (i : Nat) : among i → g.isHostAt i = false
  links {i j : Nat} : among i → g.Links i j → among j

theorem Failures.IsClosed.not_leadsToHost {among : Nat → Prop} (h : g.IsClosed among) (hi : among i) :
    ¬ g.LeadsToHost i := by
  rintro ⟨j, hleads, hhost⟩
  have hj : among j := by
    clear hhost
    induction hleads with
    | refl => exact hi
    | tail _ hlink ih => exact h.links ih hlink
  rw [h.isHostAt_eq j hj] at hhost
  cases hhost

/-- What has been seen is no host, and it is linked only to what has been seen or is pending. -/
def Failures.SeenSoFar (g : Failures) (unseen pending : List Nat) : Prop :=
  ∀ i ∉ unseen, g.isHostAt i = false ∧ ∀ j, g.Links i j → j ∈ pending ∨ j ∉ unseen

/-- Where the search finds nothing, what it has seen in the end holds all that was pending. -/
theorem Failures.exists_closed_of_search (h : g.search unseen pending = false) (hn : unseen.Nodup)
    (hs : g.SeenSoFar unseen pending) :
    ∃ among, g.IsClosed among ∧ (∀ i ∈ pending, among i) ∧ ∀ i ∉ unseen, among i := by
  fun_induction Failures.search g unseen pending with
  | case1 unseen =>
    refine ⟨(· ∉ unseen), ⟨fun i hi => (hs i hi).1, fun hi hlink => ?_⟩, by simp, fun i hi => hi⟩
    exact ((hs _ hi).2 _ hlink).resolve_left (by simp)
  | case2 unseen i rest hi ih =>
    obtain ⟨hhost, hrest⟩ := Bool.or_eq_false_iff.mp h
    have hmem (j : Nat) : j ∉ unseen.erase i ↔ j = i ∨ j ∉ unseen := by
      rw [hn.mem_erase_iff, not_and_or, not_not]
    have hs' : g.SeenSoFar (unseen.erase i) (g.linksOf i ++ rest) := by
      intro j hj
      rcases (hmem j).mp hj with rfl | hj
      · exact ⟨hhost, fun k hk => .inl (List.mem_append_left _ hk)⟩
      · obtain ⟨hj, hlinks⟩ := hs j hj
        refine ⟨hj, fun k hk => ?_⟩
        rcases hlinks k hk with hk | hk
        · rcases List.mem_cons.mp hk with rfl | hk
          · exact .inr ((hmem k).mpr (.inl rfl))
          · exact .inl (List.mem_append_right _ hk)
        · exact .inr ((hmem k).mpr (.inr hk))
    obtain ⟨among, hclosed, hpending, hseen⟩ := ih hrest (hn.erase i) hs'
    refine ⟨among, hclosed, ?_, fun j hj => hseen j ((hmem j).mpr (.inr hj))⟩
    rw [List.forall_mem_cons]
    exact ⟨hseen i ((hmem i).mpr (.inl rfl)), fun j hj => hpending j (List.mem_append_right _ hj)⟩
  | case3 unseen i rest hi ih =>
    have hs' : g.SeenSoFar unseen rest := by
      intro j hj
      obtain ⟨hj, hlinks⟩ := hs j hj
      refine ⟨hj, fun k hk => ?_⟩
      rcases hlinks k hk with hk | hk
      · rcases List.mem_cons.mp hk with rfl | hk
        · exact .inr hi
        · exact .inl hk
      · exact .inr hk
    obtain ⟨among, hclosed, hpending, hseen⟩ := ih h hn hs'
    refine ⟨among, hclosed, ?_, hseen⟩
    rw [List.forall_mem_cons]
    exact ⟨hseen i hi, hpending⟩

/-- Before the search, nothing that is a failure has been seen. -/
theorem Failures.seenSoFar_range (g : Failures) (pending : List Nat) :
    g.SeenSoFar (List.range g.length) pending := by
  intro i hi
  have hnone : g[i]? = none := by
    rw [List.getElem?_eq_none_iff, ← Nat.not_lt, ← List.mem_range]
    exact hi
  refine ⟨by rw [isHostAt, hnone]; rfl, fun j hj => ?_⟩
  rw [Links, linksOf, hnone] at hj
  cases hj

/-- **A host that cannot be found is behind a failure exactly if some links lead to one**, however many other
links there are and whatever circles they make. -/
theorem Failures.isUnknownHost_iff : g.isUnknownHost i = true ↔ g.LeadsToHost i := by
  constructor
  · intro h
    obtain ⟨j, hj, hleads⟩ := leadsToHost_of_search h
    rw [List.mem_singleton] at hj
    rwa [hj] at hleads
  · intro hleads
    by_contra hfound
    rw [Bool.not_eq_true] at hfound
    obtain ⟨among, hclosed, hpending, -⟩ := exists_closed_of_search hfound List.nodup_range (seenSoFar_range g [i])
    exact hclosed.not_leadsToHost (hpending i (.head _)) hleads

end ReleaseNotes
