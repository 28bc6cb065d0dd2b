import ReleaseNotes.Proofs.Grammar
import ReleaseNotes.Proofs.Undefined

/-!
# What a template depends on

The names that the caller of a template must give are found without carrying anything out, as the names of the frame
of the whole template and of the frames inside of it. Carrying the template out enters just these frames, since the
frames that are open always have the names that were settled for them (`scopeOf_run`). So two callers that agree on the
names that are found, and on those of the language, make the same of a template (`core_findsNames`).
-/

namespace ReleaseNotes.Template

variable {caller other : Context} {frames : List Frame}

/-- The names of the frames that are open. -/
abbrev scopeOf (frames : List Frame) : Scope :=
  frames.map (·.map Prod.fst)

/-! ### Open frames -/

theorem scopeOf_giveAll (given : Frame) (frames : List Frame) :
    scopeOf (given.foldl (fun frames e => giveValue e.1 e.2 frames) frames) = scopeOf frames := by
  induction given generalizing frames with
  | nil => rfl
  | cons e given ih =>
    rw [List.foldl_cons, ih]
    exact keys_giveValue e.1 e.2 frames

mutual

/-- A statement leaves the names of the open frames as they are. -/
theorem scopeOf_run : ∀ (s : Statement) {frames after : List Frame} {text : String},
    s.run caller frames = .ok (text, after) → scopeOf after = scopeOf frames
  | .text _, _, _, _, h => by
    cases h
    rfl
  | .output e, _, _, _, h => by
    obtain ⟨v, -, h⟩ := bind_eq_ok.mp (by rwa [Statement.run] at h)
    obtain ⟨s, -, h⟩ := bind_eq_ok.mp h
    cases h
    rfl
  | .branch test body otherwise, _, _, _, h => by
    obtain ⟨tested, -, h⟩ := bind_eq_ok.mp (by rwa [Statement.run] at h)
    obtain ⟨isTrue, -, h⟩ := bind_eq_ok.mp h
    split at h
    · exact scopeOf_runAll body h
    · exact scopeOf_runAll otherwise h
  | .loop target source test? body otherwise, _, _, _, h => by
    obtain ⟨v, -, h⟩ := bind_eq_ok.mp (by rwa [Statement.run] at h)
    obtain ⟨values, -, h⟩ := bind_eq_ok.mp h
    obtain ⟨values, -, h⟩ := bind_eq_ok.mp h
    split at h <;> obtain ⟨_, -, h⟩ := bind_eq_ok.mp h <;> cases h <;> rfl
  | .assign target e, _, _, _, h => by
    obtain ⟨v, -, h⟩ := bind_eq_ok.mp (by rwa [Statement.run] at h)
    obtain ⟨given, -, h⟩ := bind_eq_ok.mp h
    cases h
    exact scopeOf_giveAll given _

theorem scopeOf_runAll : ∀ (body : List Statement) {frames after : List Frame} {text : String},
    runAll caller frames body = .ok (text, after) → scopeOf after = scopeOf frames
  | [], _, _, _, h => by
    cases h
    rfl
  | s :: rest, _, _, _, h => by
    obtain ⟨⟨first, between⟩, hs, h⟩ := bind_eq_ok.mp (by rwa [runAll] at h)
    obtain ⟨⟨others, after⟩, hrest, h⟩ := bind_eq_ok.mp h
    cases h
    exact (scopeOf_runAll rest hrest).trans (scopeOf_run s hs)

end

/-! ### Callers that agree -/

/-- Two callers have the same values for some names. -/
def Context.SameFor (caller other : Context) (names : List String) : Prop :=
  ∀ n ∈ names, caller.value n = other.value n

theorem Context.SameFor.left {more names : List String} (h : caller.SameFor other (names ++ more)) :
    caller.SameFor other names :=
  fun n hn => h n (List.mem_append_left _ hn)

theorem Context.SameFor.right {more names : List String} (h : caller.SameFor other (names ++ more)) :
    caller.SameFor other more :=
  fun n hn => h n (List.mem_append_right _ hn)

/-- A frame is entered with the same values if the callers have the same for the names that it asks for. -/
theorem enter_congr {own : Names} (h : caller.SameFor other own.asked) (frames : List Frame) (given : Frame) :
    enter caller frames given own = enter other frames given own := by
  refine List.map_congr_left fun ⟨n, origin⟩ he => ?_
  cases origin with
  | caller =>
    have hn := h n (List.mem_map.mpr ⟨_, List.mem_filter.mpr ⟨he, rfl⟩, rfl⟩)
    dsimp only
    rw [hn]
  | _ => rfl

section

variable {target : Target} {source test : Expr} {test? : Option Expr} {body otherwise : List Statement}

theorem passing_congr (h : caller.SameFor other (testNames (scopeOf frames) target test).asked)
    (values : List Value) : passing caller frames target test values = passing other frames target test values := by
  induction values with
  | nil => rfl
  | cons v values ih =>
    rw [passing, passing, ih]
    simp only [enter_congr h]

/-- The parts of what a loop asks for: in its test, in its turns, and if there are none. -/
structure Context.SameForLoop (caller other : Context) (scope : Scope) (target : Target) (test? : Option Expr)
    (body otherwise : List Statement) : Prop where
  tested : ∀ test, test? = some test → caller.SameFor other (testNames scope target test).asked
  entered : caller.SameFor other (bodyNames scope target body).asked
  turn : caller.SameFor other (askedByAll ((bodyNames scope target body).map Prod.fst :: scope) body)
  idleEntered : caller.SameFor other (settleAll scope false [] otherwise).asked
  idle : caller.SameFor other (askedByAll ((settleAll scope false [] otherwise).map Prod.fst :: scope) otherwise)

theorem Context.SameFor.loop {scope : Scope}
    (h : caller.SameFor other ((Statement.loop target source test? body otherwise).asked scope)) :
    caller.SameForLoop other scope target test? body otherwise := by
  rw [Statement.asked] at h
  refine ⟨?_, h.left.left.left.right, h.left.left.right, h.left.right, h.right⟩
  rintro test rfl
  exact h.left.left.left.left

theorem passingAll_congr (h : caller.SameForLoop other (scopeOf frames) target test? body otherwise)
    (values : List Value) :
    passingAll caller frames target test? values = passingAll other frames target test? values := by
  cases test? with
  | none => rfl
  | some test => exact passing_congr (h.tested test rfl) values

theorem enterTurn_congr (h : caller.SameFor other (bodyNames (scopeOf frames) target body).asked) (index : Nat)
    (values : List Value) (v : Value) :
    enterTurn caller frames target body index values v = enterTurn other frames target body index values v := by
  rw [enterTurn, enterTurn]
  simp only [enter_congr h]

theorem scopeOf_enterTurn {index : Nat} {values : List Value} {v : Value} {frame : Frame}
    (h : enterTurn caller frames target body index values v = .ok frame) :
    scopeOf (frame :: frames) = (bodyNames (scopeOf frames) target body).map Prod.fst :: scopeOf frames := by
  obtain ⟨given, -, h⟩ := bind_eq_ok.mp h
  cases h
  rw [scopeOf, List.map_cons, keys_enter]

end

mutual

/-- What a statement does depends only on the names that the caller must give for the frames inside of it. -/
theorem run_congr : ∀ (s : Statement) {frames : List Frame}, caller.SameFor other (s.asked (scopeOf frames)) →
    s.run caller frames = s.run other frames
  | .text _, _, _ | .output _, _, _ | .assign _ _, _, _ => by
    rw [Statement.run, Statement.run]
  | .branch test body otherwise, frames, h => by
    rw [Statement.asked] at h
    rw [Statement.run, Statement.run, runAll_congr body h.left, runAll_congr otherwise h.right]
  | .loop target source test? body otherwise, frames, h => by
    have hl := h.loop
    have hturn : ∀ values : List Value, ∀ e : Value × Nat,
        (do let frame ← enterTurn caller frames target body e.2 values e.1
            let (s, _) ← runAll caller (frame :: frames) body
            Except.ok s : Except Fault String) =
          (do let frame ← enterTurn other frames target body e.2 values e.1
              let (s, _) ← runAll other (frame :: frames) body
              Except.ok s) := by
      intro values e
      rw [← enterTurn_congr hl.entered]
      cases he : enterTurn caller frames target body e.2 values e.1 with
      | error fault => rfl
      | ok frame =>
        have hb : runAll caller (frame :: frames) body = runAll other (frame :: frames) body := by
          refine runAll_congr body ?_
          rw [scopeOf_enterTurn he]
          exact hl.turn
        rw [ok_bind, ok_bind, hb]
    have hidle : runAll caller
          (enter caller frames [] (settleAll (scopeOf frames) false [] otherwise) :: frames) otherwise =
        runAll other (enter other frames [] (settleAll (scopeOf frames) false [] otherwise) :: frames) otherwise := by
      rw [← enter_congr hl.idleEntered]
      refine runAll_congr otherwise ?_
      rw [scopeOf, List.map_cons, keys_enter]
      exact hl.idle
    rw [Statement.run, Statement.run]
    simp only [passingAll_congr hl, hidle, hturn]

/-- What some statements do depends only on the names that the caller must give for the frames inside of them. -/
theorem runAll_congr : ∀ (body : List Statement) {frames : List Frame},
    caller.SameFor other (askedByAll (scopeOf frames) body) → runAll caller frames body = runAll other frames body
  | [], _, _ => by rw [runAll, runAll]
  | s :: rest, frames, h => by
    rw [askedByAll] at h
    rw [runAll, runAll, run_congr s h.left]
    cases hs : s.run other frames with
    | error fault => rfl
    | ok r =>
      obtain ⟨text, after⟩ := r
      have hrest : runAll caller after rest = runAll other after rest := by
        refine runAll_congr rest ?_
        rw [scopeOf_run s hs]
        exact h.right
      rw [ok_bind, ok_bind]
      dsimp only
      rw [hrest]

end

/-! ### Templates -/

/-- What a template writes depends only on the names that the caller must give, and on whether the caller names the
template itself. -/
theorem runTemplate_congr {found : List Statement} (h : caller.SameFor other (askedNames found))
    (hself : caller.lookup selfName = other.lookup selfName) :
    runTemplate caller found = runTemplate other found := by
  rw [askedNames] at h
  have hrun (frame : Frame) (hf : frame.map Prod.fst = (templateNames found).map Prod.fst) :
      runAll caller [frame] found = runAll other [frame] found := by
    refine runAll_congr found ?_
    rw [scopeOf, List.map_cons, hf]
    exact h.right
  rw [runTemplate, runTemplate, hself]
  dsimp only
  rw [enter_congr h.left, hrun _ (keys_enter _ _ _ _)]

theorem value_congr {n : String} (h : caller.lookup n = other.lookup n) : caller.value n = other.value n := by
  rw [Context.value, Context.value, h]

/-- **The core of the language finds all names** that a template looks up. -/
theorem core_findsNames (template : String) : core.FindsNames template := by
  intro parsed asked hp ha caller other hagree
  obtain ⟨found, -, rfl⟩ := core_parse_eq_ok_iff.mp hp
  obtain ⟨made, hm, rfl⟩ := map_eq_ok_iff.mp ha
  obtain rfl := accepted_eq_ok hm
  have hsame : caller.SameFor other (askedNames made) := by
    intro n hn
    refine value_congr (hagree n (List.mem_append.mpr ?_))
    by_cases hg : n ∈ globalNames
    · exact .inr (.tail _ hg)
    · exact .inl (List.mem_filter.mpr ⟨hn, by simpa using hg⟩)
  have hself : caller.lookup selfName = other.lookup selfName :=
    hagree selfName (List.mem_append_right _ (.head _))
  change (accepted made >>= runTemplate caller) = (accepted made >>= runTemplate other)
  rw [hm, ok_bind, ok_bind, runTemplate_congr hsame hself]

end ReleaseNotes.Template
