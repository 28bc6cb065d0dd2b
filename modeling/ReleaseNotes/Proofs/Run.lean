import Mathlib.Data.List.Forall2
import Mathlib.Logic.Basic
import ReleaseNotes.Result

/-!
# Runs of work that may fail

All work on a pamphlet is a change of a state that may stop with a fault, and what was changed
before the fault stays changed. `outcome m s` is all that such work comes to: a result or a fault,
and the state that is left. `Ensures P m Q F` says of every run from a state with `P` that a result
leaves a state with `Q` and a fault one with `F`; it goes through sequences (`Ensures.bind`) and
loops (`Ensures.forM`). `Keeps f m` says that no run changes what `f` sees of the state.

Reading the members of a list one after the other needs no state; it comes to what is read from each
(`mapM_eq_ok_iff_forall₂`).
-/

namespace ReleaseNotes

variable {ε σ α β γ : Type}

/-- What is read from a list is what is read from its members, in their order. -/
theorem mapM_eq_ok_iff_forall₂ {f : α → Except ε β} {l : List α} {k : List β} :
    l.mapM f = .ok k ↔ List.Forall₂ (fun a b => f a = .ok b) l k := by
  induction l generalizing k with
  | nil =>
    rw [List.forall₂_nil_left_iff]
    exact ⟨fun h => by cases h; rfl, fun h => h ▸ rfl⟩
  | cons a l ih =>
    rw [List.mapM_cons, List.forall₂_cons_left_iff]
    constructor
    · intro h
      cases ha : f a with
      | error e =>
        rw [ha] at h
        cases h
      | ok b =>
        rw [ha, ok_bind] at h
        cases hl : l.mapM f with
        | error e =>
          rw [hl] at h
          cases h
        | ok k' =>
          rw [hl] at h
          cases h
          exact ⟨b, k', rfl, ih.mp hl, rfl⟩
    · rintro ⟨b, k', ha, hk, rfl⟩
      rw [ha, ok_bind, ih.mpr hk]
      rfl

/-- What comes of some work that begins in a state, and the state that it leaves. -/
def outcome (m : ExceptT ε (StateM σ) α) (s : σ) : Except ε α × σ :=
  m.run.run s

@[simp] theorem outcome_pure (a : α) (s : σ) :
    outcome (pure a : ExceptT ε (StateM σ) α) s = (.ok a, s) := rfl

@[simp] theorem outcome_throw (e : ε) (s : σ) :
    outcome (throw e : ExceptT ε (StateM σ) α) s = (.error e, s) := rfl

@[simp] theorem outcome_get (s : σ) : outcome (get : ExceptT ε (StateM σ) σ) s = (.ok s, s) := rfl

@[simp] theorem outcome_set (t s : σ) :
    outcome (set t : ExceptT ε (StateM σ) PUnit) s = (.ok ⟨⟩, t) := rfl

@[simp] theorem outcome_modify (f : σ → σ) (s : σ) :
    outcome (modify f : ExceptT ε (StateM σ) PUnit) s = (.ok ⟨⟩, f s) := rfl

theorem outcome_bind (m : ExceptT ε (StateM σ) α) (f : α → ExceptT ε (StateM σ) β) (s : σ) :
    outcome (m >>= f) s = match outcome m s with
      | (.ok a, t) => outcome (f a) t
      | (.error e, t) => (.error e, t) := by
  show StateT.run (ExceptT.bindCont f (m.run.run s).1) (m.run.run s).2 = _
  unfold outcome
  rcases m.run.run s with ⟨_ | _, _⟩ <;> rfl

theorem outcome_bind_of_ok {m : ExceptT ε (StateM σ) α} {f : α → ExceptT ε (StateM σ) β}
    {s t : σ} {a : α} (h : outcome m s = (.ok a, t)) :
    outcome (m >>= f) s = outcome (f a) t := by
  rw [outcome_bind, h]

theorem outcome_bind_of_error {m : ExceptT ε (StateM σ) α} {f : α → ExceptT ε (StateM σ) β}
    {s t : σ} {e : ε} (h : outcome m s = (.error e, t)) :
    outcome (m >>= f) s = (.error e, t) := by
  rw [outcome_bind, h]

/-- A sequence comes to a result only if both parts do. -/
theorem outcome_bind_eq_ok {m : ExceptT ε (StateM σ) α} {f : α → ExceptT ε (StateM σ) β}
    {s u : σ} {b : β} :
    outcome (m >>= f) s = (.ok b, u) ↔
      ∃ a t, outcome m s = (.ok a, t) ∧ outcome (f a) t = (.ok b, u) := by
  rw [outcome_bind]
  rcases outcome m s with ⟨e | a, t⟩
  · simp
  · exact ⟨fun h => ⟨a, t, rfl, h⟩, by rintro ⟨_, _, ⟨⟩, h⟩; exact h⟩

theorem exists_of_isOk {m : ExceptT ε (StateM σ) α} {s : σ} (h : (outcome m s).1.isOk = true) :
    ∃ a t, outcome m s = (.ok a, t) := by
  revert h
  rcases outcome m s with ⟨e | a, t⟩
  · exact nofun
  · exact fun _ => ⟨a, t, rfl⟩

/-- A loop over a list that goes on after its first turn. -/
theorem outcome_forM_cons (f : α → ExceptT ε (StateM σ) PUnit) (a : α) (rest : List α) (s : σ) :
    outcome ((a :: rest).forM f) s = outcome (f a >>= fun _ => rest.forM f) s := rfl

theorem outcome_forM_append (f : α → ExceptT ε (StateM σ) PUnit) (l k : List α) (s : σ) :
    outcome ((l ++ k).forM f) s = outcome (l.forM f >>= fun _ => k.forM f) s := by
  induction l generalizing s with
  | nil => rfl
  | cons a l ih =>
    rw [List.cons_append, outcome_forM_cons, outcome_bind, outcome_bind, outcome_forM_cons,
      outcome_bind]
    rcases outcome (f a) s with ⟨_ | _, t⟩
    · rfl
    · rw [← outcome_bind]
      exact ih t

/-! ### What every run ensures -/

/-- Every run of `m` from a state with `P` ends in a state with `Q` if it comes to a result, and in
one with `F` if it fails. -/
def Ensures (P : σ → Prop) (m : ExceptT ε (StateM σ) α) (Q : α → σ → Prop) (F : σ → Prop) : Prop :=
  ∀ s, P s → match outcome m s with
    | (.ok a, t) => Q a t
    | (.error _, t) => F t

section Ensures

variable {P P' : σ → Prop} {Q Q' : α → σ → Prop} {F F' : σ → Prop} {m : ExceptT ε (StateM σ) α}

theorem Ensures.mono (h : Ensures P m Q F) (hP : ∀ s, P' s → P s) (hQ : ∀ a s, Q a s → Q' a s)
    (hF : ∀ s, F s → F' s) : Ensures P' m Q' F' := by
  intro s hs
  have := h s (hP s hs)
  revert this
  rcases outcome m s with ⟨_ | a, t⟩
  · exact hF t
  · exact hQ a t

theorem Ensures.pure {a : α} (h : ∀ s, P s → Q a s) :
    Ensures P (pure a : ExceptT ε (StateM σ) α) Q F := h

theorem Ensures.bind {R : β → σ → Prop} {f : α → ExceptT ε (StateM σ) β} (hm : Ensures P m Q F)
    (hf : ∀ a, Ensures (Q a) (f a) R F) : Ensures P (m >>= f) R F := by
  intro s hs
  have := hm s hs
  revert this
  rw [outcome_bind]
  rcases outcome m s with ⟨_ | a, t⟩
  · exact id
  · exact hf a t

/-- What does not depend on the state may be taken out of what holds before. -/
theorem Ensures.of_and {c : Prop} (h : c → Ensures P m Q F) : Ensures (fun s => P s ∧ c) m Q F :=
  fun s hs => h hs.2 s hs.1

/-- A loop whose every turn keeps `I`. -/
theorem Ensures.forM {I : σ → Prop} {f : β → ExceptT ε (StateM σ) PUnit} {l : List β}
    (h : ∀ b ∈ l, Ensures I (f b) (fun _ => I) F) : Ensures I (l.forM f) (fun _ => I) F := by
  induction l with
  | nil => exact Ensures.pure fun _ => id
  | cons b l ih =>
    exact Ensures.bind (h b (.head l)) fun _ => ih fun b' hb' => h b' (.tail b hb')

/-- What holds after every run is ensured, whether it comes to a result or fails. -/
theorem Ensures.of_after {I : σ → Prop} (h : ∀ s, P s → I (outcome m s).2) : Ensures P m (fun _ => I) I := by
  intro s hs
  have := h s hs
  revert this
  rcases outcome m s with ⟨_ | a, t⟩ <;> exact id

/-- The state after any run. -/
theorem Ensures.after {I : σ → Prop} (h : Ensures P m (fun _ => I) I) {s : σ} (hs : P s) :
    I (outcome m s).2 := by
  have := h s hs
  revert this
  rcases outcome m s with ⟨_ | a, t⟩ <;> exact id

/-- The state after a run that comes to a result. -/
theorem Ensures.of_ok (h : Ensures P m Q F) {s t : σ} {a : α} (hs : P s)
    (ho : outcome m s = (.ok a, t)) : Q a t := by
  have := h s hs
  rwa [ho] at this

end Ensures

/-! ### What every run keeps -/

/-- No run of `m`, whatever comes of it, changes what `f` sees of the state. -/
def Keeps (f : σ → γ) (m : ExceptT ε (StateM σ) α) : Prop :=
  ∀ s, f (outcome m s).2 = f s

section Keeps

variable {f : σ → γ} {m : ExceptT ε (StateM σ) α}

theorem Keeps.pure (a : α) : Keeps f (pure a : ExceptT ε (StateM σ) α) := fun _ => rfl

theorem Keeps.get : Keeps f (get : ExceptT ε (StateM σ) σ) := fun _ => rfl

theorem Keeps.modify {g : σ → σ} (h : ∀ s, f (g s) = f s) :
    Keeps f (modify g : ExceptT ε (StateM σ) PUnit) := h

theorem Keeps.bind {next : α → ExceptT ε (StateM σ) β} (h : Keeps f m) (hn : ∀ a, Keeps f (next a)) :
    Keeps f (m >>= next) := by
  intro s
  have := h s
  rw [outcome_bind]
  revert this
  rcases outcome m s with ⟨_ | a, t⟩
  · exact id
  · exact (hn a t).trans

theorem Keeps.forM {g : β → ExceptT ε (StateM σ) PUnit} {l : List β} (h : ∀ b ∈ l, Keeps f (g b)) :
    Keeps f (l.forM g) := by
  induction l with
  | nil => exact .pure _
  | cons b l ih => exact .bind (h b (.head l)) fun _ => ih fun b' hb' => h b' (.tail b hb')

theorem Keeps.ensures (h : Keeps f m) (seen : γ) :
    Ensures (fun s => f s = seen) m (fun _ s => f s = seen) (fun s => f s = seen) :=
  .of_after fun s hs => (h s).trans hs

theorem Keeps.mapM {g : β → ExceptT ε (StateM σ) α} (h : ∀ b, Keeps f (g b)) (l : List β) :
    Keeps f (l.mapM g) := by
  induction l with
  | nil => exact .pure _
  | cons b l ih =>
    rw [List.mapM_cons]
    exact .bind (h b) fun _ => .bind ih fun _ => .pure _

end Keeps

end ReleaseNotes
