import ReleaseNotes.Proofs.Grammar
import ReleaseNotes.Proofs.Rebuilding

/-!
# Reading plain sentences

A plain sentence is a template of texts and of names that stand for values, each between double braces and perhaps
with spaces around it (`SentencePart`). Reading it gives one statement for each name, and one for the text before each
name and after the last (`statements_sentence`): whatever the texts have in them besides opening braces and line
breaks, they are written as they are, and nothing but the names is looked up.
-/

namespace ReleaseNotes.Template

/-! ### Plain sentences -/

/-- The words that mean something else where a name stands alone. -/
def reservedWords : List String :=
  ["not", "true", "True", "false", "False", "none", "None"]

/-- Whether a character can begin a plain name. -/
def isPlainStart (c : Char) : Bool :=
  c.isAlpha || c == '_'

/-- Whether a character can stand in a plain name. -/
def isPlainPart (c : Char) : Bool :=
  isPlainStart c || c.isDigit

/-- A text is a plain name: it has letters, digits and underscores only, begins with no digit, and is not a word of the
language, nor one of the names that are given a meaning by the language itself. -/
structure IsPlainName (n : String) : Prop where
  letters : ∃ first others, n.toList = first :: others ∧ isPlainStart first ∧ others.all isPlainPart
  notReserved : n ∉ reservedWords
  notGlobal : n ∉ globalNames
  notSelf : n ≠ selfName

/-- A part of a plain sentence. -/
inductive SentencePart where
  /-- Text that is written as it is. -/
  | text (s : String)
  /-- A name between double braces, with so many spaces before and after it. -/
  | name (before : Nat) (n : String) (after : Nat)

/-- A part as it stands in the template. -/
def SentencePart.written : SentencePart → List Char
  | .text s => s.toList
  | .name before n after =>
    '\x7b' :: '\x7b' ::
      (List.replicate before ' ' ++ (n.toList ++ (List.replicate after ' ' ++ ['\x7d', '\x7d'])))

/-- The name in a part. -/
def SentencePart.name? : SentencePart → Option String
  | .text _ => none
  | .name _ n _ => some n

/-- A text has no opening brace and no line break in it, and a name is a plain one. -/
def SentencePart.IsPlain : SentencePart → Prop
  | .text s => '\x7b' ∉ s.toList ∧ '\n' ∉ s.toList ∧ '\r' ∉ s.toList
  | .name _ n _ => IsPlainName n

/-- The template with some parts. -/
def sentenceOf (parts : List SentencePart) : String :=
  String.ofList (parts.flatMap SentencePart.written)

/-- The names in some parts, in order. -/
def namesIn (parts : List SentencePart) : List String :=
  parts.filterMap SentencePart.name?

/-- The statements of a sentence whose first text is `before`. -/
def statementsFrom (before : List Char) : List SentencePart → List Statement
  | [] => [.text (String.ofList before)]
  | .text s :: rest => statementsFrom (before ++ s.toList) rest
  | .name _ n _ :: rest => .text (String.ofList before) :: .output (.name n) :: statementsFrom [] rest

/-- The pieces of a sentence whose first text is `before`. -/
def piecesFrom (before : List Char) : List SentencePart → List Piece
  | [] => [.text (String.ofList before)]
  | .text s :: rest => piecesFrom (before ++ s.toList) rest
  | .name _ n _ :: rest => .text (String.ofList before) :: .output [.name n] :: piecesFrom [] rest

variable {before cs rest : List Char} {c : Char} {n : String} {parts : List SentencePart}

/-! ### Characters of names -/

theorem toNat_of_isPlainStart (h : isPlainStart c) :
    (0x41 ≤ c.toNat ∧ c.toNat ≤ 0x5A) ∨ (0x5F ≤ c.toNat ∧ c.toNat ≤ 0x5F) ∨ (0x61 ≤ c.toNat ∧ c.toNat ≤ 0x7A) := by
  change (decide ('A'.val ≤ c.val ∧ c.val ≤ 'Z'.val) || (decide ('a'.val ≤ c.val) && decide (c.val ≤ 'z'.val)) ||
    c == '_') = true at h
  simp only [Bool.or_eq_true, Bool.and_eq_true, decide_eq_true_eq, beq_iff_eq, UInt32.le_iff_toNat_le] at h
  rcases h with (h | h) | rfl
  · exact .inl h
  · exact .inr (.inr h)
  · decide

theorem toNat_of_isDigit (h : c.isDigit) : 0x30 ≤ c.toNat ∧ c.toNat ≤ 0x39 := by
  simp only [Char.isDigit, Bool.and_eq_true, decide_eq_true_eq, ge_iff_le, UInt32.le_iff_toNat_le] at h
  exact h

theorem isLetter_of_isPlainStart (h : isPlainStart c) : Text.isLetter c := by
  have hrange : ∀ low high, (low, high) ∈ Text.letterRanges → low ≤ c.toNat ∧ c.toNat ≤ high → Text.isLetter c :=
    fun low high hm hc => List.any_eq_true.mpr ⟨(low, high), hm, by simp [hc]⟩
  rcases toNat_of_isPlainStart h with h | h | h
  · exact hrange _ _ (.head _) h
  · exact hrange _ _ (.tail _ (.head _)) h
  · exact hrange _ _ (.tail _ (.tail _ (.head _))) h

theorem isNamePart_of_isPlainPart (h : isPlainPart c) : Text.isNamePart c := by
  rw [isPlainPart, Bool.or_eq_true] at h
  rw [Text.isNamePart, Bool.or_eq_true, Bool.or_eq_true]
  rcases h with h | h
  · exact .inl (.inl (isLetter_of_isPlainStart h))
  · have hc := toNat_of_isDigit h
    refine .inl (.inr ?_)
    rw [Text.decimalValue?, Option.isSome_map, List.find?_isSome]
    refine ⟨0x30, .head _, ?_⟩
    simp only [Bool.and_eq_true, decide_eq_true_eq]
    omega

theorem isDigit_of_isPlainStart (h : isPlainStart c) : c.isDigit = false := by
  rw [Bool.eq_false_iff]
  intro hd
  have hs := toNat_of_isPlainStart h
  have hd := toNat_of_isDigit hd
  omega

theorem isBlank_of_isPlainStart (h : isPlainStart c) : Text.isBlank c = false := by
  have hs := toNat_of_isPlainStart h
  simp only [Text.isBlank, Text.inRanges, Text.blankRanges, List.any_cons, List.any_nil, Bool.or_eq_false_iff,
    Bool.and_eq_false_iff, decide_eq_false_iff_not, and_true]
  omega

/-- A character is none of a sign, a brace and a zero, if it begins a plain name. -/
theorem ne_of_isPlainStart {d : Char} (h : isPlainStart c) (hd : isPlainStart d = false) : c ≠ d := by
  rintro rfl
  rw [h] at hd
  cases hd

/-! ### The end of a name -/

theorem not_isNamePart_space : Text.isNamePart ' ' = false := by
  decide +kernel

theorem not_isNamePart_brace : Text.isNamePart '\x7d' = false := by
  decide +kernel

/-- What stands after a name up to the end of its braces does not continue the name. -/
theorem not_isNamePart_of_head? (after : Nat) (rest : List Char) :
    ∀ c ∈ (List.replicate after ' ' ++ '\x7d' :: rest).head?, Text.isNamePart c = false := by
  cases after with
  | zero => simp [not_isNamePart_brace]
  | succ k => simp [List.replicate_succ, not_isNamePart_space]

theorem takeWhile_append_of_head? {p : Char → Bool} (h : ∀ c ∈ cs, p c) (hr : ∀ c ∈ rest.head?, p c = false) :
    (cs ++ rest).takeWhile p = cs ∧ (cs ++ rest).dropWhile p = rest := by
  rw [List.takeWhile_append_of_pos h, List.dropWhile_append_of_pos h]
  cases rest with
  | nil => simp
  | cons c rest => simp [hr c rfl]

/-! ### Tokens -/

theorem closing?_of_ne (hm : c ≠ '-') (hp : c ≠ '+') (hb : c ≠ '\x7d') (cs : List Char) :
    closing? .output (c :: cs) = none := by
  rw [closing?.eq_def]
  split <;> simp_all [TagKind.mark]

theorem readTokens_spaces (k : Nat) (cs : List Char) :
    readTokens .output [] false (List.replicate k ' ' ++ cs) = readTokens .output [] false cs := by
  induction k with
  | zero => rfl
  | succ k ih =>
    rw [List.replicate_succ, List.cons_append, readTokens]
    simp only [List.isEmpty_nil, if_true, closing?_of_ne (c := ' ') (by decide) (by decide) (by decide)]
    rw [if_pos (by decide), ih]

theorem readTokens_end (rest : List Char) :
    readTokens .output [] false ('\x7d' :: '\x7d' :: rest) = .ok ([], rest) := by
  rw [readTokens]
  simp [closing?, TagKind.mark]

theorem readFloat?_of_isPlainStart (h : isPlainStart c) : readFloat? (c :: cs) = none := by
  simp [readFloat?, Number.takeRun, isDigit_of_isPlainStart h]

theorem readInteger?_of_isPlainStart (h : isPlainStart c) : readInteger? (c :: cs) = none := by
  have hz : c ≠ '0' := ne_of_isPlainStart h (by decide)
  have hm : readMarked? (c :: cs) = none := by
    rw [readMarked?.eq_def]
    split <;> simp_all
  simp [readInteger?, hm, hz, Number.takeRun, isDigit_of_isPlainStart h]

theorem readToken_name (h : IsPlainName n) (hr : ∀ c ∈ rest.head?, Text.isNamePart c = false) :
    readToken false (n.toList ++ rest) = .ok (.name n, rest) := by
  obtain ⟨first, others, hn, hf, ho⟩ := h.letters
  have hparts : ∀ c ∈ n.toList, Text.isNamePart c := by
    rw [hn]
    refine List.forall_mem_cons.mpr ⟨?_, fun c hc => isNamePart_of_isPlainPart (List.all_eq_true.mp ho c hc)⟩
    exact isNamePart_of_isPlainPart (by rw [isPlainPart, hf, Bool.true_or])
  obtain ⟨htake, hdrop⟩ := takeWhile_append_of_head? hparts hr
  rw [hn, List.cons_append] at htake hdrop ⊢
  rw [readToken]
  simp only [Bool.false_eq_true, if_false, readFloat?_of_isPlainStart hf, readInteger?_of_isPlainStart hf]
  rw [if_pos (isLetter_of_isPlainStart hf), htake, hdrop, ← hn, String.ofList_toList]

theorem readTokens_name (h : IsPlainName n) (hr : ∀ c ∈ rest.head?, Text.isNamePart c = false) :
    readTokens .output [] false (n.toList ++ rest) =
      (readTokens .output [] false rest).map fun found => (.name n :: found.1, found.2) := by
  have htoken := readToken_name h hr
  obtain ⟨first, others, hn, hf, ho⟩ := h.letters
  rw [hn, List.cons_append] at htoken ⊢
  rw [readTokens]
  simp only [List.isEmpty_nil, if_true, closing?_of_ne (ne_of_isPlainStart hf (d := '-') (by decide))
    (ne_of_isPlainStart hf (d := '+') (by decide)) (ne_of_isPlainStart hf (d := '\x7d') (by decide))]
  rw [if_neg (by simp [isBlank_of_isPlainStart hf]), htoken]
  simp only [openAfter, Token.isPoint]
  cases readTokens .output [] false rest <;> rfl

/-- Between the braces of a name stands the name and nothing else. -/
theorem readTokens_braced (h : IsPlainName n) (k m : Nat) (rest : List Char) :
    readTokens .output [] false
        (List.replicate k ' ' ++ (n.toList ++ (List.replicate m ' ' ++ '\x7d' :: '\x7d' :: rest))) =
      .ok ([.name n], rest) := by
  rw [readTokens_spaces, readTokens_name h (not_isNamePart_of_head? m _), readTokens_spaces, readTokens_end]
  rfl

/-! ### Pieces -/

theorem opening?_of_ne (h : c ≠ '\x7b') (cs : List Char) : opening? (c :: cs) = none := by
  rw [opening?.eq_def]
  split <;> simp_all

theorem readText_append (h : '\x7b' ∉ cs) (rest : List Char) :
    readText before (cs ++ rest) = readText (cs.reverse ++ before) rest := by
  induction cs generalizing before with
  | nil => rfl
  | cons c cs ih =>
    rw [List.mem_cons, not_or] at h
    rw [List.cons_append, readText, opening?_of_ne (Ne.symm h.1), ih h.2, List.reverse_cons, List.append_assoc]
    rfl

theorem takeTrim_braced (h : IsPlainName n) (k : Nat) (rest : List Char) :
    takeTrim (List.replicate k ' ' ++ (n.toList ++ rest)) = (false, List.replicate k ' ' ++ (n.toList ++ rest)) := by
  cases k with
  | succ k => rfl
  | zero =>
    obtain ⟨first, others, hn, hf, ho⟩ := h.letters
    have hm : first ≠ '-' := ne_of_isPlainStart hf (by decide)
    have hp : first ≠ '+' := ne_of_isPlainStart hf (by decide)
    rw [hn, List.replicate_zero, List.nil_append, List.cons_append, takeTrim.eq_def]
    split <;> simp_all

/-- A template without a tag is a text. -/
theorem readPieces_of_text (h : readText [] cs = (before, none)) :
    readPieces cs = .ok [.text (String.ofList before)] := by
  rw [readPieces]
  split <;> simp_all

/-- What stands before a tag is a piece, the tag may be one, and what follows is read by itself. -/
theorem readPieces_of_tag {kind : TagKind} {inner after : List Char} {piece? : Option Piece}
    (h : readText [] cs = (before, some (kind, inner))) (ht : readTag kind (takeTrim inner).2 = .ok (piece?, after)) :
    readPieces cs = (readPieces after).map fun pieces =>
      .text (String.ofList (trimEnd (takeTrim inner).1 before)) :: (piece?.toList ++ pieces) := by
  rw [readPieces]
  split
  · simp_all
  · next found =>
    obtain ⟨rfl, hi⟩ := Prod.mk.inj (found.symm.trans h)
    obtain ⟨rfl, rfl⟩ := Prod.mk.inj (Option.some.inj hi)
    split
    · simp_all
    · next tag =>
      obtain ⟨rfl, rfl⟩ := Prod.mk.inj (Except.ok.inj (tag.symm.trans ht))
      dsimp only
      split <;> simp_all [Except.map]

/-- The text before a name in braces is a piece, the name is one, and what follows is read by itself. -/
theorem readPieces_name (h : IsPlainName n) (hb : '\x7b' ∉ before) (k m : Nat) (rest : List Char) :
    readPieces (before ++ ((SentencePart.name k n m).written ++ rest)) =
      (readPieces rest).map fun pieces => .text (String.ofList before) :: .output [.name n] :: pieces := by
  have htag : readTag .output (takeTrim (List.replicate k ' ' ++
      (n.toList ++ (List.replicate m ' ' ++ '\x7d' :: '\x7d' :: rest)))).2 = .ok (some (.output [.name n]), rest) := by
    rw [takeTrim_braced h, readTag, readTokens_braced h k m rest]
    rfl
  have htext : readText [] (before ++ ((SentencePart.name k n m).written ++ rest)) =
      (before, some (.output,
        List.replicate k ' ' ++ (n.toList ++ (List.replicate m ' ' ++ '\x7d' :: '\x7d' :: rest)))) := by
    rw [readText_append hb]
    simp [SentencePart.written, readText, opening?]
  rw [readPieces_of_tag htext htag, takeTrim_braced h]
  rfl

/-- Reading a sentence gives its pieces. -/
theorem readPieces_sentence (h : ∀ part ∈ parts, part.IsPlain) (hb : '\x7b' ∉ before) :
    readPieces (before ++ parts.flatMap SentencePart.written) = .ok (piecesFrom before parts) := by
  induction parts generalizing before with
  | nil =>
    have htext : readText [] (before ++ []) = (before, none) := by
      rw [readText_append hb, readText, List.append_nil, List.reverse_reverse]
    rw [List.flatMap_nil, readPieces_of_text htext]
    rfl
  | cons part parts ih =>
    obtain ⟨hpart, hparts⟩ := List.forall_mem_cons.mp h
    rw [List.flatMap_cons]
    cases part with
    | text s =>
      rw [SentencePart.written, ← List.append_assoc, ih hparts (by simp [hb, hpart.1])]
      rfl
    | name k n m =>
      rw [readPieces_name hpart hb, ← List.nil_append (parts.flatMap _), ih hparts List.not_mem_nil]
      rfl

/-- What stands in a sentence is on one line. -/
theorem SentencePart.IsPlain.onOneLine {part : SentencePart} (h : part.IsPlain) :
    '\n' ∉ part.written ∧ '\r' ∉ part.written := by
  cases part with
  | text s => exact h.2
  | name k n m =>
    obtain ⟨first, others, hn, hf, ho⟩ := h.letters
    have hother : ∀ d, isPlainPart d = false → d ∉ n.toList := by
      intro d hd hm
      rw [hn] at hm
      rcases List.mem_cons.mp hm with rfl | hm
      · rw [isPlainPart, hf] at hd
        cases hd
      · rw [List.all_eq_true.mp ho d hm] at hd
        cases hd
    simp [SentencePart.written, List.mem_replicate, hother '\n' (by decide), hother '\r' (by decide)]

theorem pieces_sentence (h : ∀ part ∈ parts, part.IsPlain) : pieces (sentenceOf parts) = .ok (piecesFrom [] parts) := by
  have hline : ∀ c, (∀ part ∈ parts, c ∉ part.written) → c ∉ parts.flatMap SentencePart.written := by
    intro c hc hm
    obtain ⟨part, hp, hm⟩ := List.mem_flatMap.mp hm
    exact hc part hp hm
  have hn := hline '\n' fun part hp => (h part hp).onOneLine.1
  have hr := hline '\r' fun part hp => (h part hp).onOneLine.2
  have hlast : dropLastLine (parts.flatMap SentencePart.written) = parts.flatMap SentencePart.written := by
    rw [dropLastLine, if_neg]
    rw [beq_iff_eq]
    exact fun he => hn (List.mem_of_getLast? he)
  rw [pieces, sentenceOf, String.toList_ofList, Markup.unifyLines_eq_self hr, hlast]
  exact readPieces_sentence h List.not_mem_nil

/-! ### Statements -/

theorem IsPlainName.constant? (h : IsPlainName n) : constant? n = none := by
  have := h.notReserved
  simp_all [Template.constant?, reservedWords]

theorem readExpression_name (h : IsPlainName n) : readExpression .choice [] [.name n] = .ok (.name n, []) := by
  have hc := h.constant?
  have hn : n ≠ "not" := by
    rintro rfl
    exact h.notReserved (by decide)
  simp [readExpression, supply, readTuple, readTupleItems, endsTuple, readLevel, Level.next, hn, readOperand,
    readPrimary, hc, readSuffixes, readFilters, readMore, readComparisons, comparison?, readJoined, tupleOf]

theorem ofPiece_name (h : IsPlainName n) :
    Mark.ofPiece (.output [.name n]) = .ok (.statement (.output (.name n))) := by
  rw [Mark.ofPiece, readExpression_name h]
  rfl

theorem marks_sentence (h : ∀ part ∈ parts, part.IsPlain) :
    (piecesFrom before parts).mapM Mark.ofPiece = .ok ((statementsFrom before parts).map .statement) := by
  induction parts generalizing before with
  | nil => rfl
  | cons part parts ih =>
    obtain ⟨hpart, hparts⟩ := List.forall_mem_cons.mp h
    cases part with
    | text s => exact ih hparts
    | name k n m =>
      rw [piecesFrom, List.mapM_cons, List.mapM_cons, ofPiece_name hpart, ih hparts]
      rfl

theorem nest_statements (before found : List Statement) :
    nest [] before (found.map .statement) = .ok (before.reverse ++ found) := by
  induction found generalizing before with
  | nil => simp [nest]
  | cons s found ih =>
    rw [List.map_cons, nest, ih, List.reverse_cons, List.append_assoc]
    rfl

theorem strangers_sentence : strangersInAll false (statementsFrom before parts) = [] := by
  induction parts generalizing before with
  | nil => rfl
  | cons part parts ih =>
    cases part with
    | text s => exact ih
    | name k n m => exact ih

theorem abusesLoop_sentence : someAbusesLoop (statementsFrom before parts) = false := by
  induction parts generalizing before with
  | nil => rfl
  | cons part parts ih =>
    cases part with
    | text s => exact ih
    | name k n m => exact ih

/-- These are the statements of a plain sentence. -/
theorem statements_sentence (h : ∀ part ∈ parts, part.IsPlain) :
    statements (sentenceOf parts) = .ok (statementsFrom [] parts) := by
  rw [statements, pieces_sentence h]
  change (piecesFrom [] parts).mapM Mark.ofPiece >>= nest [] [] = _
  rw [marks_sentence h]
  exact nest_statements [] _

/-- The statements of a plain sentence break no rule. -/
theorem accepted_sentence : accepted (statementsFrom before parts) = .ok (statementsFrom before parts) := by
  rw [accepted, abusesLoop_sentence, strangers_sentence]
  rfl

/-- A plain sentence is a template that can be read. -/
theorem parse_sentence (h : ∀ part ∈ parts, part.IsPlain) :
    core.parse (sentenceOf parts) = .ok (.ofStatements (statementsFrom [] parts)) :=
  core_parse_eq_ok_iff.mpr ⟨_, statements_sentence h, rfl⟩

end ReleaseNotes.Template
