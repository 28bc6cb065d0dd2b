import Mathlib.Data.Finset.Card
import Mathlib.Data.Multiset.Basic
import Mathlib.Data.Prod.Lex
import ReleaseNotes.Proofs.Chain

/-!
# Exploring failures in any order

A search for a host that cannot be found may take the failures that are pending in any order and follow the links of
a failure in any order. It is a relation between what has been seen, what is pending, and an answer
(`Failures.Goes`). However it goes, it comes to an end (`Failures.wellFounded_goes`), and the answer is the same as
that of the search that goes deep first (`Failures.ended_of_goes`): whether some links lead from the failure where it
begins to a host that cannot be found. So the answer depends neither on the order of exploring nor on that in which
links are listed (`Failures.isUnknownHost_eq_reachable`).
-/

namespace ReleaseNotes

open Relation

variable {f : Failure} {g g' : Failures} {i j start : Nat} {seen : Finset Nat} {pending rest : Multiset Nat}

/-! ### Links -/

/-- A failure is linked to another one: its cause, the failure during which it came up, its reason, or one that it
carries along. -/
inductive Failure.IsLinkedTo (f : Failure) (j : Nat) : Prop where
  /-- To its cause. -/
  | cause (h : f.cause? = some j)
  /-- To the failure during which it came up. -/
  | context (h : f.context? = some j)
  /-- To its reason. -/
  | reason (h : f.reason? = some j)
  /-- To something that it carries along. -/
  | carried (h : Said.failure j ∈ f.carried)

/-- The failure with a number is linked to the one with another. -/
def Failures.Refers (g : Failures) (i j : Nat) : Prop :=
  ∃ f, g[i]? = some f ∧ f.IsLinkedTo j

/-- The failure with a number is that of a host which the system does not know, or whose name leads nowhere. -/
def Failures.IsHost (g : Failures) (i : Nat) : Prop :=
  ∃ f, g[i]? = some f ∧ (f.kind = .unknownHost ∨ f.kind = .unresolved)

/-- Failures of the same kinds with the same links, in whatever order and however often they are listed. -/
def Failures.SameLinks (g g' : Failures) : Prop :=
  List.Forall₂ (fun f f' => f.kind = f'.kind ∧ ∀ j, f.IsLinkedTo j ↔ f'.IsLinkedTo j) g g'

theorem Failure.mem_links_iff : j ∈ f.links ↔ f.IsLinkedTo j := by
  have hcarried : j ∈ f.carried.filterMap Said.failure? ↔ Said.failure j ∈ f.carried := by
    rw [List.mem_filterMap]
    constructor
    · rintro ⟨said, hmem, hsaid⟩
      cases said with
      | text s => cases hsaid
      | number n => cases hsaid
      | failure k =>
        cases hsaid
        exact hmem
    · exact fun hmem => ⟨_, hmem, rfl⟩
  simp only [links, List.mem_append, Option.mem_toList, hcarried]
  constructor
  · rintro (((h | h) | h) | h)
    · exact .cause h
    · exact .context h
    · exact .reason h
    · exact .carried h
  · rintro (h | h | h | h)
    · exact .inl (.inl (.inl h))
    · exact .inl (.inl (.inr h))
    · exact .inl (.inr h)
    · exact .inr h

theorem Failures.links_eq_refers : g.Links = g.Refers := by
  funext i j
  simp only [Links, Refers, linksOf, eq_iff_iff, ← Failure.mem_links_iff]
  cases g[i]? <;> simp

theorem Failures.isHostAt_iff : g.isHostAt i = true ↔ g.IsHost i := by
  have hkind (k : FailureKind) : k.isHost = true ↔ k = .unknownHost ∨ k = .unresolved := by
    cases k <;> decide
  rw [isHostAt, IsHost]
  cases g[i]? with
  | none => simp
  | some f => simp [hkind]

theorem Failures.leadsToHost_iff : g.LeadsToHost i ↔ ∃ j, ReflTransGen g.Refers i j ∧ g.IsHost j := by
  simp only [LeadsToHost, links_eq_refers, isHostAt_iff]

/-- At every number there are failures of the same kind with the same links, or none in both. -/
theorem Failures.SameLinks.getElem? (h : g.SameLinks g') (i : Nat) :
    Option.Rel (fun f f' => f.kind = f'.kind ∧ ∀ j, f.IsLinkedTo j ↔ f'.IsLinkedTo j) g[i]? g'[i]? := by
  induction h generalizing i with
  | nil => exact .none
  | cons hf _ ih =>
    cases i with
    | zero => exact .some hf
    | succ i => exact ih i

/-- What only kinds and links matter for holds at a number in both or in none. -/
theorem Failures.SameLinks.exists_iff {P : Failure → Prop} (h : g.SameLinks g')
    (hP : ∀ f f', f.kind = f'.kind → (∀ j, f.IsLinkedTo j ↔ f'.IsLinkedTo j) → (P f ↔ P f')) (i : Nat) :
    (∃ f, g[i]? = some f ∧ P f) ↔ ∃ f, g'[i]? = some f ∧ P f := by
  have hi := h.getElem? i
  revert hi
  rcases g[i]? with _ | f <;> rcases g'[i]? with _ | f' <;> rintro ⟨⟩
  case none => simp
  case some hf => simp [hP f f' hf.1 hf.2]

theorem Failures.SameLinks.refers_iff (h : g.SameLinks g') : g.Refers i j ↔ g'.Refers i j :=
  h.exists_iff (fun _ _ _ hlinks => hlinks j) i

theorem Failures.SameLinks.isHost_iff (h : g.SameLinks g') : g.IsHost i ↔ g'.IsHost i :=
  h.exists_iff (fun _ _ hkind _ => by rw [hkind]) i

theorem Failures.SameLinks.isUnknownHost_eq (h : g.SameLinks g') : g'.isUnknownHost i = g.isUnknownHost i := by
  have hrefers : g.Refers = g'.Refers := by
    funext i j
    exact propext h.refers_iff
  rw [Bool.eq_iff_iff, isUnknownHost_iff, isUnknownHost_iff, leadsToHost_iff, leadsToHost_iff, hrefers]
  simp only [h.isHost_iff]

/-! ### Searches in any order -/

/-- A search under way, or its answer. -/
inductive Search where
  /-- Some failures have been seen, and others are pending, some of them perhaps more than once. -/
  | going (seen : Finset Nat) (pending : Multiset Nat)
  /-- A host that cannot be found has been found, or has not. -/
  | ended (answer : Bool)

/-- A search goes on, with any of the failures that are pending. -/
inductive Failures.Goes (g : Failures) : Search → Search → Prop where
  /-- What has been seen is passed over. -/
  | passes {i : Nat} {seen : Finset Nat} {rest : Multiset Nat} (h : i ∈ seen) :
    g.Goes (.going seen (i ::ₘ rest)) (.going seen rest)
  /-- The failure is that of a host. -/
  | finds {i : Nat} {seen : Finset Nat} {rest : Multiset Nat} (h : i ∉ seen) (hi : g.IsHost i) :
    g.Goes (.going seen (i ::ₘ rest)) (.ended true)
  /-- What the failure is linked to is pending, too. -/
  | follows {i : Nat} {seen : Finset Nat} {rest : Multiset Nat} (h : i ∉ seen) (hi : ¬ g.IsHost i) :
    g.Goes (.going seen (i ::ₘ rest)) (.going (insert i seen) (g.linksOf i + rest))
  /-- Nothing is pending. -/
  | givesUp {seen : Finset Nat} : g.Goes (.going seen 0) (.ended false)

/-! ### Every search ends -/

/-- How much a search still has to do: the failures that have not been seen count more than those that are
pending. -/
def Failures.effort (g : Failures) : Search → Nat × Nat
  | .going seen pending => ((Finset.range g.length \ seen).card, pending.card + 1)
  | .ended _ => (0, 0)

/-- The failure with a number that none has is linked to none. -/
theorem Failures.linksOf_eq_nil (h : g.length ≤ i) : g.linksOf i = [] := by
  rw [linksOf, List.getElem?_eq_none h]
  rfl

theorem Failures.effort_lt_of_goes {s t : Search} (h : g.Goes s t) :
    Prod.Lex (· < ·) (· < ·) (g.effort t) (g.effort s) := by
  have hend (a b : Nat) : Prod.Lex (· < ·) (· < ·) (0, 0) (a, b + 1) := by
    rcases Nat.eq_zero_or_pos a with rfl | ha
    · exact .right _ b.succ_pos
    · exact .left _ _ ha
  cases h with
  | finds h hi => exact hend _ _
  | givesUp => exact hend _ _
  | passes h =>
    refine .right _ ?_
    rw [Multiset.card_cons]
    omega
  | @follows i seen rest h hi =>
    by_cases hlt : i < g.length
    · refine .left _ _ (Finset.card_lt_card ?_)
      rw [Finset.sdiff_insert]
      exact Finset.erase_ssubset (Finset.mem_sdiff.mpr ⟨Finset.mem_range.mpr hlt, h⟩)
    · -- What is no failure is linked to nothing, so one thing less is pending.
      have hsame : Finset.range g.length \ insert i seen = Finset.range g.length \ seen := by
        rw [Finset.sdiff_insert]
        exact Finset.erase_eq_of_notMem fun hmem => hlt (Finset.mem_range.mp (Finset.mem_sdiff.mp hmem).1)
      rw [effort, effort, hsame, linksOf_eq_nil (Nat.not_lt.mp hlt), Multiset.coe_nil, Multiset.zero_add,
        Multiset.card_cons]
      exact .right _ (Nat.lt_succ_self _)

/-- **Every search ends**, in whatever order it goes. -/
theorem Failures.wellFounded_goes (g : Failures) : WellFounded (flip g.Goes) :=
  Subrelation.wf (fun h => effort_lt_of_goes h)
    (InvImage.wf g.effort (Prod.lex ⟨_, wellFounded_lt⟩ ⟨_, wellFounded_lt⟩).wf)

/-! ### Every search has the same answer -/

/-- What is known of a search that has begun with a failure: nothing that has been seen is a host, and its links lead
to what has been seen or is pending; and what is pending is behind the failure. An answer is right. -/
def Failures.Knows (g : Failures) (start : Nat) : Search → Prop
  | .going seen pending =>
    (start ∈ seen ∨ start ∈ pending) ∧
    (∀ i ∈ seen, ¬ g.IsHost i ∧ ∀ j, g.Links i j → j ∈ seen ∨ j ∈ pending) ∧
    ∀ i ∈ pending, ReflTransGen g.Links start i
  | .ended answer => answer = true ↔ g.LeadsToHost start

theorem Failures.knows_start (g : Failures) (start : Nat) : g.Knows start (.going ∅ {start}) :=
  ⟨.inr (Multiset.mem_singleton_self _), nofun, fun i hi => by
    rw [Multiset.mem_singleton] at hi
    rw [hi]⟩

/-- What is known of a search is known when it has gone on. -/
theorem Failures.Knows.goes {s t : Search} (h : g.Knows start s) (hgo : g.Goes s t) : g.Knows start t := by
  cases hgo with
  | @passes i seen rest hi =>
    obtain ⟨hstart, hseen, hpending⟩ := h
    have hmem (j : Nat) (hj : j ∈ seen ∨ j ∈ i ::ₘ rest) : j ∈ seen ∨ j ∈ rest := by
      rcases hj with hj | hj
      · exact .inl hj
      · rcases Multiset.mem_cons.mp hj with rfl | hj
        · exact .inl hi
        · exact .inr hj
    exact ⟨hmem start hstart, fun k hk => ⟨(hseen k hk).1, fun j hj => hmem j ((hseen k hk).2 j hj)⟩,
      fun j hj => hpending j (Multiset.mem_cons_of_mem hj)⟩
  | @finds i seen rest hi hhost =>
    obtain ⟨-, -, hpending⟩ := h
    exact iff_of_true rfl ⟨i, hpending i (Multiset.mem_cons_self _ _), isHostAt_iff.mpr hhost⟩
  | @follows i seen rest hi hhost =>
    obtain ⟨hstart, hseen, hpending⟩ := h
    have hmem (j : Nat) (hj : j ∈ seen ∨ j ∈ i ::ₘ rest) :
        j ∈ insert i seen ∨ j ∈ (g.linksOf i : Multiset Nat) + rest := by
      rcases hj with hj | hj
      · exact .inl (Finset.mem_insert_of_mem hj)
      · rcases Multiset.mem_cons.mp hj with rfl | hj
        · exact .inl (Finset.mem_insert_self _ _)
        · exact .inr (Multiset.mem_add.mpr (.inr hj))
    refine ⟨hmem start hstart, fun k hk => ?_, fun j hj => ?_⟩
    · rcases Finset.mem_insert.mp hk with rfl | hk
      · exact ⟨hhost, fun j hj => .inr (Multiset.mem_add.mpr (.inl (Multiset.mem_coe.mpr hj)))⟩
      · exact ⟨(hseen k hk).1, fun j hj => hmem j ((hseen k hk).2 j hj)⟩
    · rcases Multiset.mem_add.mp hj with hj | hj
      · exact .tail (hpending i (Multiset.mem_cons_self _ _)) (Multiset.mem_coe.mp hj)
      · exact hpending j (Multiset.mem_cons_of_mem hj)
  | @givesUp seen =>
    obtain ⟨hstart, hseen, -⟩ := h
    -- With nothing pending, what has been seen is closed under links.
    have hclosed : g.IsClosed (· ∈ seen) := by
      refine ⟨fun i hi => ?_, fun {i j} hi hlink => ((hseen i hi).2 j hlink).resolve_right (Multiset.notMem_zero j)⟩
      rw [← Bool.not_eq_true, isHostAt_iff]
      exact (hseen i hi).1
    refine iff_of_false Bool.false_ne_true (hclosed.not_leadsToHost ?_)
    exact hstart.resolve_right (Multiset.notMem_zero start)

theorem Failures.knows_of_goes {s : Search} (h : ReflTransGen g.Goes (.going ∅ {start}) s) : g.Knows start s := by
  induction h with
  | refl => exact g.knows_start start
  | tail _ hgo ih => exact ih.goes hgo

/-- A search that has no answer can go on. -/
theorem Failures.exists_goes (g : Failures) (seen : Finset Nat) (pending : Multiset Nat) :
    ∃ t, g.Goes (.going seen pending) t := by
  induction pending using Multiset.induction with
  | empty => exact ⟨_, .givesUp⟩
  | cons i rest _ =>
    by_cases hseen : i ∈ seen
    · exact ⟨_, .passes hseen⟩
    · by_cases hhost : g.IsHost i
      · exact ⟨_, .finds hseen hhost⟩
      · exact ⟨_, .follows hseen hhost⟩

/-- A search that cannot go on has ended with the answer of the search that goes deep first. -/
theorem Failures.ended_of_goes {s : Search} (h : ReflTransGen g.Goes (.going ∅ {start}) s)
    (hend : ∀ t, ¬ g.Goes s t) : s = .ended (g.isUnknownHost start) := by
  have hknows := knows_of_goes h
  cases s with
  | going seen pending =>
    obtain ⟨t, ht⟩ := g.exists_goes seen pending
    exact absurd ht (hend t)
  | ended answer =>
    rw [Search.ended.injEq, Bool.eq_iff_iff, isUnknownHost_iff]
    exact hknows

/-- **A host that cannot be found is found exactly if some links lead to one.** Every search for one ends, whatever
failures it takes first, and its answer is the same; and so is the answer if links are listed in another order. -/
theorem Failures.isUnknownHost_eq_reachable (g : Failures) (start : Nat) :
    (g.isUnknownHost start = true ↔ ∃ i, ReflTransGen g.Refers start i ∧ g.IsHost i) ∧
    WellFounded (flip g.Goes) ∧
    (∀ s, ReflTransGen g.Goes (.going ∅ {start}) s → (∀ t, ¬ g.Goes s t) → s = .ended (g.isUnknownHost start)) ∧
    (∀ g', g.SameLinks g' → g'.isUnknownHost start = g.isUnknownHost start) :=
  ⟨isUnknownHost_iff.trans leadsToHost_iff, g.wellFounded_goes, fun _ h hend => ended_of_goes h hend,
    fun _ h => h.isUnknownHost_eq⟩

/-- Two failures each of which is behind the other. The first carries itself along, and the second has a reason,
which is that a name leads nowhere. -/
def circle : Failures :=
  [{ kind := .connection, said := [.failure 0], cause? := some 1 },
    { kind := .protocol, said := [], context? := some 0, reason? := some 2 },
    { kind := .unresolved, said := [] }]

/-- The same failures, whose links are listed in other places and more than once. -/
def circleAgain : Failures :=
  [{ kind := .connection, said := [.failure 0, .failure 1], context? := some 0 },
    { kind := .protocol, said := [.failure 2], cause? := some 2, context? := some 0 },
    { kind := .unresolved, said := [] }]

theorem circle_sameLinks : circle.SameLinks circleAgain := by
  simp only [Failures.SameLinks, circle, circleAgain, ← Failure.mem_links_iff]
  refine .cons ⟨rfl, fun j => ?_⟩ (.cons ⟨rfl, fun j => ?_⟩ (.cons ⟨rfl, fun j => .rfl⟩ .nil))
  · show j ∈ [1, 0] ↔ j ∈ [0, 0, 1]
    simp only [List.mem_cons, List.not_mem_nil]
    tauto
  · show j ∈ [0, 2] ↔ j ∈ [2, 0, 2]
    simp only [List.mem_cons, List.not_mem_nil]
    tauto

/-- The host that cannot be found is found in the circle: by a search that takes the reason before it goes round, and
whatever the order of the links. -/
theorem circle_isUnknownHost : ReflTransGen circle.Goes (.going ∅ {0}) (.ended true) ∧
    circle.isUnknownHost 0 = true ∧ circleAgain.isUnknownHost 0 = true := by
  have hhost (i : Nat) (h : circle.isHostAt i = false) : ¬ circle.IsHost i := by
    rw [← Failures.isHostAt_iff, h]
    exact Bool.false_ne_true
  have hrun : ReflTransGen circle.Goes (.going ∅ {0}) (.ended true) := by
    refine .head (.follows (Finset.notMem_empty 0) (hhost 0 rfl)) ?_
    rw [show (circle.linksOf 0 : Multiset Nat) + 0 = 1 ::ₘ {0} by decide]
    refine .head (.follows (by decide) (hhost 1 rfl)) ?_
    rw [show (circle.linksOf 1 : Multiset Nat) + {0} = 2 ::ₘ {0, 0} by decide]
    exact .single (.finds (by decide) (Failures.isHostAt_iff.mp rfl))
  have hsearch := circle.isUnknownHost_eq_reachable 0
  have htrue : circle.isUnknownHost 0 = true :=
    (Search.ended.inj (hsearch.2.2.1 _ hrun nofun)).symm
  exact ⟨hrun, htrue, (hsearch.2.2.2 _ circle_sameLinks).trans htrue⟩

end ReleaseNotes
