import Mathlib.Tactic.SplitIfs
import ReleaseNotes.Proofs.Language

/-!
# What keeps a template from being read

Reading a template comes to its statements or fails for how the template is written, whatever it is
(`FailsAsText.statements`). Each part of the reading passes on the faults of the parts that it is made of.
The expressions are read by functions that call one another, each with one unit less of the supply, so
what is known of all of them together is carried from one supply to the next (`ReadsAsText`).

So a template at which the core of the language breaks off has been read (`core_breaksOff_iff`): one of its
loops gives a value to the name of its own state, or it names a filter or a test that does not exist.
-/

namespace ReleaseNotes.Template

variable {α β : Type}

/-! ### Faults of the text -/

/-- Whether a fault lies in how a template is written. -/
def Fault.isOfText : Fault → Bool
  | .malformed _ | .unfit => true
  | _ => false

@[simp, grind =]
theorem isOfText_malformed (reason : String) : (Fault.malformed reason).isOfText = true := rfl

@[simp, grind =]
theorem isOfText_unfit : Fault.unfit.isOfText = true := rfl

@[grind =]
theorem isOfText_noExpression : noExpression.isOfText = true := rfl

@[grind =]
theorem isOfText_tooDeep : tooDeep.isOfText = true := rfl

@[grind =]
theorem isOfText_misplaced (word : String) : (misplaced word).isOfText = true := rfl

/-- If something cannot be read, then for how it is written. -/
def FailsAsText (made : Except Fault α) : Prop :=
  ∀ fault, made = .error fault → fault.isOfText

theorem FailsAsText.ok (a : α) : FailsAsText (.ok a) := nofun

theorem FailsAsText.map {made : Except Fault α} (h : FailsAsText made) (f : α → β) :
    FailsAsText (made.map f) :=
  fun fault hf => h fault (map_eq_error_iff.mp hf)

theorem FailsAsText.bind {made : Except Fault α} {next : α → Except Fault β} (h : FailsAsText made)
    (hn : ∀ a, FailsAsText (next a)) : FailsAsText (made >>= next) := by
  intro fault hf
  cases made with
  | error e =>
    cases hf
    exact h _ rfl
  | ok a => exact hn a fault hf

theorem FailsAsText.mapM {read : β → Except Fault α} (h : ∀ b, FailsAsText (read b)) (l : List β) :
    FailsAsText (l.mapM read) := by
  induction l with
  | nil => exact .ok _
  | cons b l ih =>
    rw [List.mapM_cons]
    exact (h b).bind fun _ => ih.bind fun _ => .ok _

/-! ### Pieces and tokens -/

theorem FailsAsText.unescape (cs : List Char) : FailsAsText (unescape cs) := by
  intro fault hf
  fun_induction Template.unescape cs with
  | case1 => cases hf
  | case2 => grind
  | case3 => grind
  | case4 => grind

theorem failsAsText_of_readInteger? {cs rest : List Char} {made : Except Fault Nat}
    (h : readInteger? cs = some (made, rest)) : FailsAsText made := by
  intro fault hf
  rw [Template.readInteger?.eq_def] at h
  grind

theorem FailsAsText.readToken (afterPoint : Bool) (cs : List Char) : FailsAsText (readToken afterPoint cs) := by
  intro fault hf
  have hi : ∀ made rest, readInteger? cs = some (made, rest) → ∀ fault, made = .error fault → fault.isOfText :=
    fun _ _ => failsAsText_of_readInteger?
  have hu := FailsAsText.unescape
  simp only [FailsAsText] at hu
  rw [Template.readToken.eq_def] at hf
  grind

theorem FailsAsText.openAfter (opened : List Char) (token : Token) : FailsAsText (openAfter opened token) := by
  intro fault hf
  rw [Template.openAfter.eq_def] at hf
  grind

theorem FailsAsText.readTokens (kind : TagKind) (opened : List Char) (afterPoint : Bool) (cs : List Char) :
    FailsAsText (readTokens kind opened afterPoint cs) := by
  intro fault hf
  have ht := FailsAsText.readToken
  have ho := FailsAsText.openAfter
  simp only [FailsAsText] at ht ho
  fun_induction Template.readTokens kind opened afterPoint cs <;> grind

theorem FailsAsText.readTag (kind : TagKind) (inner : List Char) : FailsAsText (readTag kind inner) := by
  cases kind with
  | output => exact (FailsAsText.readTokens _ _ _ _).map _
  | remark =>
    intro fault hf
    rw [Template.readTag] at hf
    grind
  | directive =>
    intro fault hf
    have := FailsAsText.readTokens
    simp only [FailsAsText] at this
    rw [Template.readTag] at hf
    grind

theorem FailsAsText.readPieces (cs : List Char) : FailsAsText (readPieces cs) := by
  intro fault hf
  have := FailsAsText.readTag
  simp only [FailsAsText] at this
  fun_induction Template.readPieces cs <;> grind

theorem FailsAsText.pieces (template : String) : FailsAsText (pieces template) :=
  .readPieces _

/-! ### Expressions -/

theorem FailsAsText.expect (sign : String) (ts : List Token) : FailsAsText (expect sign ts) := by
  intro fault hf
  rw [Template.expect.eq_def] at hf
  grind

/-- With some supply, every part of an expression that cannot be read cannot be for how it is written. -/
structure ReadsAsText (n : Nat) : Prop where
  level (level : Level) (ts : List Token) : FailsAsText (readLevel n level ts)
  more (level : Level) (left : Expr) (ts : List Token) : FailsAsText (readMore n level left ts)
  comparisons (ts : List Token) : FailsAsText (readComparisons n ts)
  joined (ts : List Token) : FailsAsText (readJoined n ts)
  operand (withFilters : Bool) (ts : List Token) : FailsAsText (readOperand n withFilters ts)
  primary (ts : List Token) : FailsAsText (readPrimary n ts)
  tuple (level : Level) (mayBeEmpty : Bool) (words : List String) (ts : List Token) :
    FailsAsText (readTuple n level mayBeEmpty words ts)
  tupleItems (level : Level) (words : List String) (ts : List Token) :
    FailsAsText (readTupleItems n level words ts)
  items (ts : List Token) : FailsAsText (readItems n ts)
  entries (ts : List Token) : FailsAsText (readEntries n ts)
  suffixes (e : Expr) (ts : List Token) : FailsAsText (readSuffixes n e ts)
  indices (ts : List Token) : FailsAsText (readIndices n ts)
  bound (ts : List Token) : FailsAsText (readBound n ts)
  arguments (ts : List Token) : FailsAsText (readArguments n ts)
  filters (e : Expr) (ts : List Token) : FailsAsText (readFilters n e ts)
  test (e : Expr) (ts : List Token) : FailsAsText (readTest n e ts)

/-- Each part of an expression passes on the faults of the parts that it is made of. -/
theorem ReadsAsText.succ {n : Nat} (h : ReadsAsText n) : ReadsAsText (n + 1) := by
  obtain ⟨level, more, comparisons, joined, operand, primary, tuple, tupleItems, items, entries, suffixes,
    indices, bound, arguments, filters, test⟩ := h
  have sign := FailsAsText.expect
  simp only [FailsAsText] at *
  constructor
  case level => intro level ts fault hf; rw [readLevel.eq_def] at hf; grind
  case more => intro level left ts fault hf; rw [readMore.eq_def] at hf; grind
  case comparisons => intro ts fault hf; rw [readComparisons.eq_def] at hf; grind
  case joined => intro ts fault hf; rw [readJoined.eq_def] at hf; grind
  case operand => intro withFilters ts fault hf; rw [readOperand.eq_def] at hf; grind
  case primary => intro ts fault hf; rw [readPrimary.eq_def] at hf; grind
  case tuple => intro level mayBeEmpty words ts fault hf; rw [readTuple.eq_def] at hf; grind
  case tupleItems => intro level words ts fault hf; rw [readTupleItems.eq_def] at hf; grind
  case items => intro ts fault hf; rw [readItems.eq_def] at hf; grind
  case entries =>
    intro ts fault hf
    rw [readEntries.eq_def] at hf
    dsimp only at hf
    split at hf
    · cases hf
    split at hf
    · grind
    split at hf <;> grind
  case suffixes => intro e ts fault hf; rw [readSuffixes.eq_def] at hf; grind
  case indices => intro ts fault hf; rw [readIndices.eq_def] at hf; grind
  case bound => intro ts fault hf; rw [readBound.eq_def] at hf; grind
  case arguments => intro ts fault hf; rw [readArguments.eq_def] at hf; grind
  case filters => intro e ts fault hf; rw [readFilters.eq_def] at hf; grind
  case test => intro e ts fault hf; rw [readTest.eq_def] at hf; grind

theorem readsAsText (n : Nat) : ReadsAsText n := by
  induction n with
  | zero =>
    constructor <;> intros <;> rintro _ ⟨⟩ <;> rfl
  | succ n ih => exact ih.succ

theorem FailsAsText.readExpression (level : Level) (words : List String) (ts : List Token) :
    FailsAsText (readExpression level words ts) :=
  (readsAsText _).tuple _ _ _ _

/-! ### Statements -/

theorem FailsAsText.atEnd (found : α) (rest : List Token) : FailsAsText (atEnd found rest) := by
  intro fault hf
  rw [Template.atEnd] at hf
  grind

theorem FailsAsText.atBody (found : α) (rest : List Token) : FailsAsText (atBody found rest) := by
  rw [Template.atBody.eq_def]
  split <;> exact .atEnd _ _

theorem FailsAsText.readTargetItems (n : Nat) (words : List String) (ts : List Token) :
    FailsAsText (readTargetItems n words ts) := by
  have hp := fun ts => (readsAsText (supply ts)).primary ts
  simp only [FailsAsText] at *
  induction n generalizing ts with
  | zero => grind [Template.readTargetItems]
  | succ n ih =>
    intro fault hf
    rw [Template.readTargetItems.eq_def] at hf
    grind

theorem FailsAsText.readTarget (words : List String) (ts : List Token) : FailsAsText (readTarget words ts) := by
  have hi := fun n => FailsAsText.readTargetItems n words ts
  simp only [FailsAsText] at *
  intro fault hf
  rw [Template.readTarget] at hf
  grind

theorem FailsAsText.readLoop (ts : List Token) : FailsAsText (readLoop ts) := by
  refine .bind (.readTarget _ _) fun (target, rest) => ?_
  dsimp only
  split
  · refine .bind (.readExpression _ _ _) fun (source, rest) => ?_
    dsimp only
    split
    · exact .bind ((readsAsText _).level _ _) fun _ => .atBody _ _
    · exact .atBody _ _
  · rintro _ ⟨⟩
    rfl

theorem FailsAsText.readAssignment (ts : List Token) : FailsAsText (readAssignment ts) :=
  .bind (.readTarget _ _) fun _ => .bind (.expect _ _) fun _ => .bind (.readExpression _ _ _) fun _ =>
    .atEnd _ _

theorem FailsAsText.readDirective (ts : List Token) : FailsAsText (readDirective ts) := by
  rw [Template.readDirective.eq_def]
  split
  · split_ifs
    · exact .bind (.readExpression _ _ _) fun _ => .atBody _ _
    · exact .bind (.readExpression _ _ _) fun _ => .atBody _ _
    · exact .atBody _ _
    · exact .atEnd _ _
    · exact .readLoop _
    · exact .atEnd _ _
    · exact .readAssignment _
    · rintro _ ⟨⟩
      rfl
  · rintro _ ⟨⟩
    rfl

theorem FailsAsText.ofPiece (piece : Piece) : FailsAsText (Mark.ofPiece piece) := by
  cases piece with
  | text => exact .ok _
  | output tokens => exact .bind (.readExpression _ _ _) fun _ => .atEnd _ _
  | directive tokens => exact .readDirective _

theorem FailsAsText.nest (outer : List Opened) (before : List Statement) (marks : List Mark) :
    FailsAsText (nest outer before marks) := by
  intro fault hf
  fun_induction Template.nest outer before marks <;> grind

/-- A template whose statements cannot be read cannot be for how it is written. -/
theorem FailsAsText.statements (template : String) : FailsAsText (statements template) :=
  .bind (.pieces _) fun _ => .bind (.mapM .ofPiece _) fun _ => .nest _ _ _

/-! ### Refused templates -/

/-- A template that is refused although it can be read: one of its loops gives a value to the name of its
own state, or a filter or a test that it names where that counts does not exist. -/
def IsStray (template : String) : Prop :=
  ∃ found, statements template = .ok found ∧ (someAbusesLoop found ∨ strangersInAll false found ≠ [])

theorem accepted_cases (found : List Statement) :
    (accepted found = .ok found ∧ someAbusesLoop found = false ∧ strangersInAll false found = []) ∨
      ∃ reason, accepted found = .error (.malformed reason) ∧
        (someAbusesLoop found ∨ strangersInAll false found ≠ []) := by
  rw [accepted]
  cases ha : someAbusesLoop found with
  | true => exact .inr ⟨_, rfl, .inl rfl⟩
  | false =>
    cases hs : strangersInAll false found with
    | nil => exact .inl ⟨rfl, rfl, rfl⟩
    | cons name names => exact .inr ⟨_, rfl, .inr (List.cons_ne_nil _ _)⟩

theorem accepted_eq_ok {found made : List Statement} (h : accepted found = .ok made) : made = found := by
  rcases accepted_cases found with ⟨hok, -⟩ | ⟨reason, he, -⟩
  · exact Except.ok.inj (h.symm.trans hok)
  · rw [h] at he
    cases he

theorem core_parse_eq_ok_iff {template : String} {parsed : Parsed} :
    core.parse template = .ok parsed ↔ ∃ found, statements template = .ok found ∧ Parsed.ofStatements found = parsed :=
  map_eq_ok_iff

/-- The core of the language fails at those templates in a way of which nothing is told as wrong with them, and at
no others. -/
theorem core_breaksOff_iff {template : String} : core.BreaksOff template ↔ IsStray template := by
  constructor
  · rintro (⟨fault, hp, hf⟩ | ⟨parsed, fault, hp, ha, -⟩)
    · have ht := FailsAsText.statements template fault (map_eq_error_iff.mp hp)
      cases fault <;> cases ht <;> cases hf
    · obtain ⟨found, hs, rfl⟩ := core_parse_eq_ok_iff.mp hp
      refine ⟨found, hs, ?_⟩
      rcases accepted_cases found with ⟨hok, -⟩ | ⟨reason, -, h⟩
      · have ha := map_eq_error_iff.mp ha
        rw [hok] at ha
        cases ha
      · exact h
  · rintro ⟨found, hs, h⟩
    rcases accepted_cases found with ⟨-, hn, hno⟩ | ⟨reason, he, -⟩
    · simp [hn, hno] at h
    · exact .inr ⟨_, _, core_parse_eq_ok_iff.mpr ⟨found, hs, rfl⟩, map_eq_error_iff.mpr he, rfl⟩

end ReleaseNotes.Template
