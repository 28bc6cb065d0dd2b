import Mathlib.Logic.Relation
import Mathlib.Data.List.Basic
import ReleaseNotes.Template.Scope

/-!
# How names are settled

The names of a frame are settled one after the other, as they are used or are given values (`Names.Takes`). A name
that is there stays, one that comes from around the frame is a name around it, and only those that the frame is
entered with are given (`Names.Settles`). In the end every name that is used in the frame is a name of it or of one
around it, and every name that is given a value is a name of the frame (`Statement.Fits`).
-/

namespace ReleaseNotes.Template

open Relation

variable {outer : Scope} {own settled : Names} {n : String} {inBranch : Bool}

theorem Names.has_iff : own.has n ↔ n ∈ own.map Prod.fst := by
  simp [Names.has]

theorem Scope.has_cons (names : List String) : Scope.has (names :: outer) n ↔ n ∈ names ∨ outer.has n := by
  simp [Scope.has]

/-! ### Steps -/

/-- A name of a frame is settled: it is used, or it is given a value. -/
inductive Names.Takes (outer : Scope) (own : Names) : Names → Prop
  | use (n : String) : Takes outer own (own.use outer n)
  | give (inBranch : Bool) (n : String) : Takes outer own (own.give outer inBranch n)

/-- Some names of a frame are settled, one after the other. -/
abbrev Names.Settles (outer : Scope) : Names → Names → Prop :=
  ReflTransGen (Names.Takes outer)

theorem settles_useAll (names : List String) (own : Names) :
    Names.Settles outer own (names.foldl (Names.use outer) own) := by
  induction names generalizing own with
  | nil => exact .refl
  | cons n names ih => exact .head (.use n) (ih _)

theorem settles_giveAll (names : List String) (own : Names) :
    Names.Settles outer own (names.foldl (Names.give outer inBranch) own) := by
  induction names generalizing own with
  | nil => exact .refl
  | cons n names ih => exact .head (.give inBranch n) (ih _)

mutual

theorem settles_settle : ∀ (s : Statement) (inBranch : Bool) (own : Names),
    Names.Settles outer own (s.settle outer inBranch own)
  | .text _, _, _ => by rw [Statement.settle]
  | .output e, _, own => by
    rw [Statement.settle]
    exact settles_useAll e.names own
  | .branch test body otherwise, _, own => by
    rw [Statement.settle]
    exact ((settles_useAll test.names own).trans (settles_settleAll body true _)).trans
      (settles_settleAll otherwise true _)
  | .loop _ source _ _ _, _, own => by
    rw [Statement.settle]
    exact settles_useAll source.names own
  | .assign target e, _, own => by
    rw [Statement.settle]
    exact (settles_useAll e.names own).trans (settles_giveAll target.names _)

theorem settles_settleAll : ∀ (body : List Statement) (inBranch : Bool) (own : Names),
    Names.Settles outer own (settleAll outer inBranch own body)
  | [], _, _ => by rw [settleAll]
  | s :: rest, inBranch, own => by
    rw [settleAll]
    exact (settles_settle s inBranch own).trans (settles_settleAll rest inBranch _)

end

/-! ### What settling keeps -/

theorem Names.Takes.subset (h : own.Takes outer settled) : own ⊆ settled := by
  cases h with
  | use n =>
    unfold Names.use
    split
    · exact List.Subset.refl _
    · exact List.subset_append_left _ _
  | give inBranch n =>
    unfold Names.give
    split_ifs
    · exact List.Subset.refl _
    all_goals exact List.subset_append_left _ _

theorem Names.Settles.subset (h : Names.Settles outer own settled) : own ⊆ settled := by
  induction h with
  | refl => exact List.Subset.refl _
  | tail _ h ih => exact List.Subset.trans ih h.subset

theorem Names.Settles.keys_subset {names : List String} (h : Names.Settles outer own settled)
    (hk : settled.map Prod.fst ⊆ names) : own.map Prod.fst ⊆ names :=
  List.Subset.trans (List.map_subset _ h.subset) hk

/-- A name that was not there before is a name around the frame, if it comes from there, and is not given. -/
def IsNew (outer : Scope) (e : String × Origin) : Prop :=
  (e.2 = .around → outer.has e.1) ∧ e.2 ≠ .given

theorem Names.Takes.isNew (h : own.Takes outer settled) {e : String × Origin} (he : e ∈ settled) :
    e ∈ own ∨ IsNew outer e := by
  cases h with
  | use n =>
    unfold Names.use at he
    split at he
    · exact .inl he
    · refine (List.mem_append.mp he).imp_right fun he => ?_
      rw [List.mem_singleton.mp he]
      exact ⟨nofun, nofun⟩
  | give inBranch n =>
    unfold Names.give at he
    split_ifs at he with hown houter
    · exact .inl he
    · refine (List.mem_append.mp he).imp_right fun he => ?_
      rw [List.mem_singleton.mp he]
      exact ⟨fun _ => houter, nofun⟩
    all_goals
      refine (List.mem_append.mp he).imp_right fun he => ?_
      rw [List.mem_singleton.mp he]
      exact ⟨nofun, nofun⟩

theorem Names.Settles.isNew (h : Names.Settles outer own settled) {e : String × Origin} (he : e ∈ settled) :
    e ∈ own ∨ IsNew outer e := by
  induction h with
  | refl => exact .inl he
  | tail _ h ih => exact (h.isNew he).elim ih .inr

/-! ### What is settled in the end -/

theorem has_use (outer : Scope) (own : Names) (n : String) : (own.use outer n).has n ∨ outer.has n := by
  unfold Names.use
  split_ifs with h
  · exact (Bool.or_eq_true _ _).mp h
  · exact .inl (by simp [Names.has])

theorem has_give (outer : Scope) (own : Names) (inBranch : Bool) (n : String) :
    (own.give outer inBranch n).has n := by
  unfold Names.give
  split_ifs with h
  · exact h
  all_goals simp [Names.has]

theorem Names.Settles.has (h : Names.Settles outer own settled) (hn : own.has n) : settled.has n := by
  rw [Names.has_iff] at hn ⊢
  exact List.map_subset _ h.subset hn

theorem has_useAll {names : List String} (own : Names) (h : n ∈ names) :
    (names.foldl (Names.use outer) own).has n ∨ outer.has n := by
  induction names generalizing own with
  | nil => cases h
  | cons m names ih =>
    rw [List.foldl_cons]
    rcases List.mem_cons.mp h with rfl | h
    · exact (has_use outer own n).imp_left (settles_useAll names _).has
    · exact ih _ h

theorem has_giveAll {names : List String} (own : Names) (h : n ∈ names) :
    (names.foldl (Names.give outer inBranch) own).has n := by
  induction names generalizing own with
  | nil => cases h
  | cons m names ih =>
    rw [List.foldl_cons]
    rcases List.mem_cons.mp h with rfl | h
    · exact (settles_giveAll names _).has (has_give outer own inBranch n)
    · exact ih _ h

mutual

/-- The names that a statement uses in its frame are names of the frame or of one around it, and those that it
gives values to are names of the frame. -/
def Statement.Fits (outer : Scope) (own : List String) : Statement → Prop
  | .text _ => True
  | .output e => ∀ n ∈ e.names, Scope.has (own :: outer) n
  | .branch test body otherwise =>
    (∀ n ∈ test.names, Scope.has (own :: outer) n) ∧ AllFit outer own body ∧ AllFit outer own otherwise
  | .loop _ source _ _ _ => ∀ n ∈ source.names, Scope.has (own :: outer) n
  | .assign target e => (∀ n ∈ e.names, Scope.has (own :: outer) n) ∧ target.names ⊆ own

/-- The names of some statements fit a frame. -/
def AllFit (outer : Scope) (own : List String) : List Statement → Prop
  | [] => True
  | s :: rest => s.Fits outer own ∧ AllFit outer own rest

end

theorem has_of_useAll {names own : List String} {start : Names}
    (h : (names.foldl (Names.use outer) start).map Prod.fst ⊆ own) :
    ∀ n ∈ names, Scope.has (own :: outer) n := by
  intro n hn
  rw [Scope.has_cons]
  exact (has_useAll start hn).imp_left fun hn => h (Names.has_iff.mp hn)

mutual

theorem fits_of_settle {own : List String} : ∀ (s : Statement) (inBranch : Bool) (start : Names),
    (s.settle outer inBranch start).map Prod.fst ⊆ own → s.Fits outer own
  | .text _, _, _, _ => by rw [Statement.Fits]; trivial
  | .output e, _, _, h => by
    rw [Statement.settle] at h
    rw [Statement.Fits]
    exact has_of_useAll h
  | .branch test body otherwise, _, _, h => by
    rw [Statement.settle] at h
    have hbody := (settles_settleAll otherwise true _).keys_subset h
    have htest := (settles_settleAll body true _).keys_subset hbody
    rw [Statement.Fits]
    exact ⟨has_of_useAll htest, allFit_of_settleAll body true _ hbody, allFit_of_settleAll otherwise true _ h⟩
  | .loop _ _ _ _ _, _, _, h => by
    rw [Statement.settle] at h
    rw [Statement.Fits]
    exact has_of_useAll h
  | .assign target e, inBranch, start, h => by
    rw [Statement.settle] at h
    have hused := (settles_giveAll target.names _).keys_subset h
    rw [Statement.Fits]
    exact ⟨has_of_useAll hused, fun n hn => h (Names.has_iff.mp (has_giveAll _ hn))⟩

theorem allFit_of_settleAll {own : List String} : ∀ (body : List Statement) (inBranch : Bool) (start : Names),
    (settleAll outer inBranch start body).map Prod.fst ⊆ own → AllFit outer own body
  | [], _, _, _ => by rw [AllFit]; trivial
  | s :: rest, inBranch, start, h => by
    rw [settleAll] at h
    have hs := (settles_settleAll rest inBranch _).keys_subset h
    rw [AllFit]
    exact ⟨fits_of_settle s inBranch start hs, allFit_of_settleAll rest inBranch _ h⟩

end

end ReleaseNotes.Template
