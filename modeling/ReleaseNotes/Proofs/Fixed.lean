import ReleaseNotes.Proofs.Grammar
import ReleaseNotes.Proofs.Lacking

/-!
# Fixed values

What is fixed in a template is a text, a number, a value of the language, or the value of a choice that has no
alternative (`Value.IsFixed`). So it is in every template that can be read (`areFixed_of_statements`), and of these
values only that of the choice lacks something. The expressions are read by functions that call one another, each
with one unit less of the supply, so what is known of all of them together is carried from one supply to the next
(`ReadsFixed`).
-/

namespace ReleaseNotes.Template

/-- A value lacks nothing, or is that of a choice that has no alternative. -/
def Value.IsFixed (v : Value) : Prop :=
  v = noChoice ∨ ∀ P, v.LacksOnly P

mutual

/-- The fixed values of an expression are such values. -/
def Expr.IsFixed : Expr → Prop
  | .constant v => v.IsFixed
  | .name _ => True
  | .list items => AllFixed items
  | .tuple items => AllFixed items
  | .table keys values => AllFixed keys ∧ AllFixed values
  | .attribute whole _ => whole.IsFixed
  | .item whole key => whole.IsFixed ∧ key.IsFixed
  | .slice whole start stop step => whole.IsFixed ∧ start.IsFixed ∧ stop.IsFixed ∧ step.IsFixed
  | .unary _ e => e.IsFixed
  | .binary _ left right => left.IsFixed ∧ right.IsFixed
  | .joined items => AllFixed items
  | .both left right => left.IsFixed ∧ right.IsFixed
  | .either left right => left.IsFixed ∧ right.IsFixed
  | .negation e => e.IsFixed
  | .comparison first _ rest => first.IsFixed ∧ AllFixed rest
  | .choice value test otherwise => value.IsFixed ∧ test.IsFixed ∧ otherwise.IsFixed
  | .filter e _ arguments _ => e.IsFixed ∧ AllFixed arguments
  | .test e _ arguments _ => e.IsFixed ∧ AllFixed arguments
  | .call function arguments _ => function.IsFixed ∧ AllFixed arguments

/-- The fixed values of some expressions are such values. -/
def AllFixed : List Expr → Prop
  | [] => True
  | e :: rest => e.IsFixed ∧ AllFixed rest

end

attribute [grind] Expr.IsFixed AllFixed

@[grind .]
theorem isFixed_noChoice : noChoice.IsFixed := .inl rfl

@[grind .]
theorem isFixed_nothing : Value.nothing.IsFixed := .inr fun _ => trivial

@[grind .]
theorem isFixed_plain (s : String) : (Value.plain s).IsFixed := .inr fun _ => trivial

@[grind .]
theorem isFixed_int (i : Int) : (Value.int i).IsFixed := .inr fun _ => trivial

@[grind .]
theorem isFixed_float (x : Float) : (Value.float x).IsFixed := .inr fun _ => trivial

@[grind →]
theorem isFixed_constant? {name : String} {v : Value} (h : constant? name = some v) : v.IsFixed := by
  unfold constant? at h
  split_ifs at h <;> cases h <;> exact .inr fun _ => trivial

@[grind →]
theorem isFixed_operator? {level : Level} {token : Token} {combine : Expr → Expr → Expr}
    (h : level.operator? token = some combine) {left right : Expr} (hl : left.IsFixed) (hr : right.IsFixed) :
    (combine left right).IsFixed := by
  unfold Level.operator? at h
  repeat' split at h
  all_goals cases h <;> simp [Expr.IsFixed, hl, hr]

@[grind .]
theorem isFixed_tupleOf {items : List Expr} {isTuple : Bool} (h : AllFixed items) :
    (tupleOf items isTuple).IsFixed := by
  unfold tupleOf
  split
  · exact h.1
  · rwa [Expr.IsFixed]

@[grind .]
theorem isFixed_bound {e? : Option Expr} (h : ∀ e, e? = some e → e.IsFixed) :
    (e?.getD (.constant .nothing)).IsFixed := by
  cases e? with
  | none => exact isFixed_nothing
  | some e => exact h e rfl

/-! ### Expressions -/

/-- With some supply, every part of an expression that is read has such fixed values. -/
structure ReadsFixed (n : Nat) : Prop where
  level {level ts e rest} (h : readLevel n level ts = .ok (e, rest)) : e.IsFixed
  more {level left ts e rest} (hl : left.IsFixed) (h : readMore n level left ts = .ok (e, rest)) : e.IsFixed
  comparisons {ts ops es rest} (h : readComparisons n ts = .ok (ops, es, rest)) : AllFixed es
  joined {ts es rest} (h : readJoined n ts = .ok (es, rest)) : AllFixed es
  operand {withFilters ts e rest} (h : readOperand n withFilters ts = .ok (e, rest)) : e.IsFixed
  primary {ts e rest} (h : readPrimary n ts = .ok (e, rest)) : e.IsFixed
  tuple {level mayBeEmpty words ts e rest} (h : readTuple n level mayBeEmpty words ts = .ok (e, rest)) : e.IsFixed
  tupleItems {level words ts es isTuple rest} (h : readTupleItems n level words ts = .ok (es, isTuple, rest)) :
    AllFixed es
  items {ts es rest} (h : readItems n ts = .ok (es, rest)) : AllFixed es
  entries {ts keys values rest} (h : readEntries n ts = .ok (keys, values, rest)) : AllFixed keys ∧ AllFixed values
  suffixes {e ts e' rest} (he : e.IsFixed) (h : readSuffixes n e ts = .ok (e', rest)) : e'.IsFixed
  indices {ts indices rest} (h : readIndices n ts = .ok (indices, rest)) :
    ∀ index ∈ indices, ∀ e : Expr, e.IsFixed → (index e).IsFixed
  bound {ts e? rest} (h : readBound n ts = .ok (e?, rest)) : ∀ e, e? = some e → e.IsFixed
  arguments {ts es names rest} (h : readArguments n ts = .ok (es, names, rest)) : AllFixed es
  filters {e ts e' rest} (he : e.IsFixed) (h : readFilters n e ts = .ok (e', rest)) : e'.IsFixed
  test {e ts e' rest} (he : e.IsFixed) (h : readTest n e ts = .ok (e', rest)) : e'.IsFixed

/-- Each part of an expression has the fixed values of the parts that it is made of. -/
theorem ReadsFixed.succ {n : Nat} (h : ReadsFixed n) : ReadsFixed (n + 1) := by
  obtain ⟨level, more, comparisons, joined, operand, primary, tuple, tupleItems, items, entries, suffixes,
    indices, bound, arguments, filters, test⟩ := h
  constructor
  case level => intro level ts e rest h; rw [readLevel.eq_def] at h; grind
  case more =>
    intro level left ts e rest hl h
    rw [readMore.eq_def] at h
    dsimp only at h
    repeat' split at h
    all_goals grind
  case comparisons => intro ts ops es rest h; rw [readComparisons.eq_def] at h; grind
  case joined => intro ts es rest h; rw [readJoined.eq_def] at h; grind
  case operand => intro withFilters ts e rest h; rw [readOperand.eq_def] at h; grind
  case primary => intro ts e rest h; rw [readPrimary.eq_def] at h; grind
  case tuple => intro level mayBeEmpty words ts e rest h; rw [readTuple.eq_def] at h; grind
  case tupleItems => intro level words ts es isTuple rest h; rw [readTupleItems.eq_def] at h; grind
  case items => intro ts es rest h; rw [readItems.eq_def] at h; grind
  case entries =>
    intro ts keys values rest h
    rw [readEntries.eq_def] at h
    dsimp only at h
    repeat' split at h
    all_goals grind
  case suffixes =>
    intro e ts e' rest he h
    rw [readSuffixes.eq_def] at h
    dsimp only at h
    split at h
    case h_4 =>
      split at h
      · cases h
      · next index rest hi => exact suffixes (indices hi index (.head _) e he) h
      · cases h
    all_goals grind
  case indices =>
    intro ts found rest h
    rw [readIndices.eq_def] at h
    dsimp only at h
    split at h
    · cases h
    · next hstart =>
      -- A part of a text or list, with or without a step.
      have hstart := isFixed_bound (bound hstart)
      split at h
      · cases h
      · next hstop =>
        have hstop := isFixed_bound (bound hstop)
        split at h
        · cases h
        · next hstep =>
          have hstep := isFixed_bound (bound hstep)
          obtain ⟨rest, -, ⟨⟩⟩ := map_eq_ok_iff.mp h
          exact List.forall_mem_singleton.mpr fun e he => ⟨he, hstart, hstop, hstep⟩
      · next hstop =>
        have hstop := isFixed_bound (bound hstop)
        obtain ⟨rest, -, ⟨⟩⟩ := map_eq_ok_iff.mp h
        exact List.forall_mem_singleton.mpr fun e he => ⟨he, hstart, hstop, isFixed_nothing⟩
    · next hkey =>
      obtain ⟨rest, -, ⟨⟩⟩ := map_eq_ok_iff.mp h
      exact List.forall_mem_singleton.mpr fun e he => ⟨he, bound hkey _ rfl⟩
    · cases h
  case bound => intro ts e? rest h; rw [readBound.eq_def] at h; grind
  case arguments => intro ts es names rest h; rw [readArguments.eq_def] at h; grind
  case filters => intro e ts e' rest he h; rw [readFilters.eq_def] at h; grind
  case test =>
    intro e ts e' rest he h
    rw [readTest.eq_def] at h
    dsimp only at h
    repeat' split at h
    all_goals grind

theorem readsFixed (n : Nat) : ReadsFixed n := by
  induction n with
  | zero => constructor <;> intros <;> contradiction
  | succ n ih => exact ih.succ

/-! ### Statements -/

mutual

/-- The fixed values of a statement are such values. -/
def Statement.IsFixed : Statement → Prop
  | .text _ => True
  | .output e => e.IsFixed
  | .branch test body otherwise => test.IsFixed ∧ AreFixed body ∧ AreFixed otherwise
  | .loop _ source test? body otherwise =>
    source.IsFixed ∧ (∀ test, test? = some test → test.IsFixed) ∧ AreFixed body ∧ AreFixed otherwise
  | .assign _ e => e.IsFixed

/-- The fixed values of some statements are such values. -/
def AreFixed : List Statement → Prop
  | [] => True
  | s :: rest => s.IsFixed ∧ AreFixed rest

end

theorem areFixed_iff {body : List Statement} : AreFixed body ↔ ∀ s ∈ body, s.IsFixed := by
  induction body with
  | nil => simp [AreFixed]
  | cons s body ih => rw [AreFixed, List.forall_mem_cons, ih]

@[grind .]
theorem areFixed_reverse {body : List Statement} (h : AreFixed body) : AreFixed body.reverse := by
  rw [areFixed_iff] at h ⊢
  simpa using h

/-- The fixed values of a mark are such values. -/
def Mark.IsFixed : Mark → Prop
  | .statement s => s.IsFixed
  | .branch test | .elseBranch test => test.IsFixed
  | .loop _ source test? => source.IsFixed ∧ ∀ test, test? = some test → test.IsFixed
  | .otherwise | .endBranch | .endLoop => True

theorem yields_of_ok {α : Type} {Q : α → Prop} {made : Except Fault α} (h : ∀ a, made = .ok a → Q a) :
    Yields (fun _ => True) Q made :=
  ⟨h, fun _ _ => trivial⟩

theorem yields_readExpression (level : Level) (words : List String) (ts : List Token) :
    Yields (fun _ => True) (fun r => r.1.IsFixed) (readExpression level words ts) :=
  yields_of_ok fun _ h => (readsFixed _).tuple h

theorem yields_atEnd {α : Type} {Q : α → Prop} {found : α} (h : Q found) (rest : List Token) :
    Yields (fun _ => True) Q (atEnd found rest) := by
  unfold atEnd
  split
  · exact yields_ok h
  · exact yields_error nofun

theorem yields_atBody {α : Type} {Q : α → Prop} {found : α} (h : Q found) (rest : List Token) :
    Yields (fun _ => True) Q (atBody found rest) := by
  unfold atBody
  split <;> exact yields_atEnd h _

theorem yields_readLoop (ts : List Token) : Yields (fun _ => True) Mark.IsFixed (readLoop ts) := by
  refine Yields.bind (yields_of_ok fun _ _ => trivial) fun (target, rest) _ => ?_
  dsimp only
  split
  · refine (yields_readExpression _ _ _).bind fun (source, rest) hs => ?_
    dsimp only
    split
    · refine Yields.bind (yields_of_ok fun r h => (readsFixed _).level h) fun (test, rest) ht => ?_
      exact yields_atBody ⟨hs, fun _ h => Option.some.inj h ▸ ht⟩ _
    · exact yields_atBody ⟨hs, nofun⟩ _
  · exact yields_error nofun

theorem yields_readAssignment (ts : List Token) : Yields (fun _ => True) Mark.IsFixed (readAssignment ts) := by
  refine Yields.bind (yields_of_ok fun _ _ => trivial) fun (target, rest) _ => ?_
  refine Yields.bind (yields_of_ok fun _ _ => trivial) fun rest _ => ?_
  refine (yields_readExpression _ _ _).bind fun (e, rest) h => ?_
  exact yields_atEnd (show (Mark.statement (.assign target e)).IsFixed from h) rest

theorem yields_readDirective (ts : List Token) : Yields (fun _ => True) Mark.IsFixed (readDirective ts) := by
  unfold readDirective
  split
  · split_ifs
    · exact (yields_readExpression _ _ _).bind fun r h => yields_atBody (show (Mark.branch r.1).IsFixed from h) _
    · exact (yields_readExpression _ _ _).bind fun r h => yields_atBody (show (Mark.elseBranch r.1).IsFixed from h) _
    · exact yields_atBody trivial _
    · exact yields_atEnd trivial _
    · exact yields_readLoop _
    · exact yields_atEnd trivial _
    · exact yields_readAssignment _
    · exact yields_error nofun
  · exact yields_error nofun

theorem yields_ofPiece (piece : Piece) : Yields (fun _ => True) Mark.IsFixed (Mark.ofPiece piece) := by
  cases piece with
  | text s => exact yields_ok trivial
  | output ts =>
    refine (yields_readExpression _ _ _).bind fun (e, rest) h => ?_
    exact yields_atEnd (show (Mark.statement (.output e)).IsFixed from h) rest
  | directive ts => exact yields_readDirective ts

/-! ### Nesting -/

/-- The fixed values of a statement that is still open are such values. -/
def Opened.IsFixed : Opened → Prop
  | .branch test before => test.IsFixed ∧ AreFixed before
  | .elseBranch test body before | .branchOtherwise test body before =>
    test.IsFixed ∧ AreFixed body ∧ AreFixed before
  | .loop _ source test? before =>
    source.IsFixed ∧ (∀ test, test? = some test → test.IsFixed) ∧ AreFixed before
  | .loopOtherwise _ source test? body before =>
    source.IsFixed ∧ (∀ test, test? = some test → test.IsFixed) ∧ AreFixed body ∧ AreFixed before

attribute [grind] Statement.IsFixed AreFixed Mark.IsFixed Opened.IsFixed

theorem isFixed_closeChain (outer : List Opened) {before : List Statement} {s : Statement} (hb : AreFixed before)
    (hs : s.IsFixed) (ho : ∀ o ∈ outer, o.IsFixed) :
    AreFixed (closeChain before s outer).1 ∧ ∀ o ∈ (closeChain before s outer).2, o.IsFixed := by
  fun_induction closeChain before s outer with
  | case1 before s test body older outer ih =>
    obtain ⟨hfirst, ho⟩ := List.forall_mem_cons.mp ho
    exact ih hfirst.2.2 ⟨hfirst.1, hfirst.2.1, hs, trivial⟩ ho
  | case2 before s outer => exact ⟨⟨hs, hb⟩, ho⟩

theorem areFixed_of_nest {outer : List Opened} {before found : List Statement} {marks : List Mark}
    (ho : ∀ o ∈ outer, o.IsFixed) (hb : AreFixed before) (hm : ∀ m ∈ marks, m.IsFixed)
    (h : nest outer before marks = .ok found) : AreFixed found := by
  have hclose := @isFixed_closeChain
  fun_induction nest outer before marks
  case case16 => cases h
  all_goals
    simp only [List.forall_mem_cons, List.not_mem_nil, false_implies, implies_true] at ho hm
    grind

/-- The fixed values of a template that can be read lack nothing, except that of a choice without an alternative. -/
theorem areFixed_of_statements {template : String} {found : List Statement}
    (h : statements template = .ok found) : AreFixed found := by
  have hyields : Yields (fun _ => True) AreFixed (statements template) := by
    refine Yields.bind (yields_of_ok fun _ _ => trivial) fun pieces _ => ?_
    refine (Yields.mapM fun piece _ => yields_ofPiece piece).bind fun marks hm => ?_
    exact yields_of_ok fun _ h => areFixed_of_nest (List.forall_mem_nil _) (show AreFixed [] from trivial) hm h
  exact hyields.ok found h

end ReleaseNotes.Template
