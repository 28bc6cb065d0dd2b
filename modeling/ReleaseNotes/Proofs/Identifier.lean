import Mathlib.Data.List.Forall2
import Mathlib.Data.List.TakeWhile
import Mathlib.Data.Nat.Digits.Defs
import ReleaseNotes.Tracker.AttachmentId

/-!
# How identifiers are written

The grammar of the identifiers of attachments, apart from the reader of them: blanks, a sign, a mark for
hexadecimal and digits stand one after another, and nothing else does (`Tracker.IsIdentifier`). The number is
that of the digits, whose values are those of the standard. What is read as an identifier is one, with the
number that is read, and every identifier is read (`Tracker.attachmentId?_eq_some_iff`); all other texts have
one and the same fault (`Tracker.readAttachmentId_eq_ok_iff`).
-/

namespace ReleaseNotes

variable {c : Char} {d n : Nat} {cs digits : List Char}

namespace Text

/-! ### Digits -/

/-- A character is a decimal digit of some script: it stands less than ten places after the zero of it. -/
def IsDecimalDigit (c : Char) (d : Nat) : Prop :=
  ∃ z ∈ zeroDigits, d < 10 ∧ c.toNat = z + d

/-- A character is a hexadecimal digit: a decimal one, or a letter that goes on counting from ten. -/
inductive IsHexDigit (c : Char) (d : Nat) : Prop where
  /-- A decimal digit. -/
  | decimal (h : IsDecimalDigit c d)
  /-- A small letter. -/
  | small (h : 'a' ≤ c ∧ c ≤ 'f') (hd : d = 10 + (c.toNat - 'a'.toNat))
  /-- A capital letter. -/
  | capital (h : 'A' ≤ c ∧ c ≤ 'F') (hd : d = 10 + (c.toNat - 'A'.toNat))

theorem le_iff_toNat_le {a b : Char} : a ≤ b ↔ a.toNat ≤ b.toNat := by
  rw [Char.le_def, UInt32.le_iff_toNat_le]
  rfl

/-- The digits of no two scripts overlap. -/
theorem zeroDigits_apart : ∀ a ∈ zeroDigits, ∀ b ∈ zeroDigits, a = b ∨ a + 10 ≤ b ∨ b + 10 ≤ a := by
  decide +kernel

/-- No decimal digit is among the letters that are hexadecimal digits. -/
theorem zeroDigits_not_letters :
    ∀ z ∈ zeroDigits, z + 10 ≤ 'A'.toNat ∨ 'f'.toNat < z := by
  decide +kernel

/-- No decimal digit is blank. -/
theorem zeroDigits_not_blank : ∀ z ∈ zeroDigits, ∀ r ∈ blankRanges, z + 10 ≤ r.1 ∨ r.2 < z := by
  decide +kernel

theorem decimalValue?_eq_some_iff : decimalValue? c = some d ↔ IsDecimalDigit c d := by
  unfold decimalValue? IsDecimalDigit
  rw [Option.map_eq_some_iff]
  constructor
  · rintro ⟨z, hfind, rfl⟩
    have hmem := List.mem_of_find?_eq_some hfind
    have hrange := List.find?_some hfind
    simp only [Bool.and_eq_true, decide_eq_true_eq] at hrange
    exact ⟨z, hmem, by omega, by omega⟩
  · rintro ⟨z, hmem, hd, hc⟩
    obtain ⟨found, hfound⟩ : ∃ found, zeroDigits.find? (fun z => z ≤ c.toNat && c.toNat < z + 10) = some found := by
      rw [← Option.isSome_iff_exists, List.find?_isSome]
      exact ⟨z, hmem, by simp only [Bool.and_eq_true, decide_eq_true_eq]; omega⟩
    have hrange := List.find?_some hfound
    simp only [Bool.and_eq_true, decide_eq_true_eq] at hrange
    -- The script that is found first is the only one that has this digit.
    refine ⟨found, hfound, ?_⟩
    rcases zeroDigits_apart found (List.mem_of_find?_eq_some hfound) z hmem with h | h | h <;> omega

theorem IsDecimalDigit.not_letter (h : IsDecimalDigit c d) : c.toNat < 'A'.toNat ∨ 'f'.toNat < c.toNat := by
  obtain ⟨z, hmem, hd, hc⟩ := h
  have := zeroDigits_not_letters z hmem
  omega

theorem hexValue?_eq_some_iff : hexValue? c = some d ↔ IsHexDigit c d := by
  have ha : 'a'.toNat = 97 := rfl
  have hf : 'f'.toNat = 102 := rfl
  have hA : 'A'.toNat = 65 := rfl
  have hF : 'F'.toNat = 70 := rfl
  unfold hexValue?
  by_cases hsmall : 'a' ≤ c ∧ c ≤ 'f'
  · rw [if_pos hsmall, Option.some_inj]
    have hrange := hsmall
    rw [le_iff_toNat_le, le_iff_toNat_le] at hrange
    constructor
    · rintro rfl
      exact .small hsmall (by omega)
    · rintro (h | ⟨-, rfl⟩ | ⟨h, rfl⟩)
      · have := h.not_letter
        omega
      · omega
      · rw [le_iff_toNat_le, le_iff_toNat_le] at h
        omega
  · rw [if_neg hsmall]
    by_cases hcapital : 'A' ≤ c ∧ c ≤ 'F'
    · rw [if_pos hcapital, Option.some_inj]
      have hrange := hcapital
      rw [le_iff_toNat_le, le_iff_toNat_le] at hrange
      constructor
      · rintro rfl
        exact .capital hcapital (by omega)
      · rintro (h | ⟨h, -⟩ | ⟨-, rfl⟩)
        · have := h.not_letter
          omega
        · exact absurd h hsmall
        · omega
    · rw [if_neg hcapital, decimalValue?_eq_some_iff]
      constructor
      · exact .decimal
      · rintro (h | ⟨h, -⟩ | ⟨h, -⟩)
        · exact h
        · exact absurd h hsmall
        · exact absurd h hcapital

/-- The characters of a text are digits with some values, all of them. -/
theorem digits?_eq_some_iff {value? : Char → Option Nat} {ds : List Nat} :
    digits? value? cs = some ds ↔ List.Forall₂ (fun c d => value? c = some d) cs ds := by
  unfold digits?
  induction cs generalizing ds with
  | nil => simp [eq_comm]
  | cons c cs ih =>
    rw [List.mapM_cons, List.forall₂_cons_left_iff]
    simp only [Option.bind_eq_bind, Option.bind_eq_some_iff, Option.pure_def, Option.some_inj, ih]
    constructor
    · rintro ⟨d, hd, rest, hrest, rfl⟩
      exact ⟨d, rest, hd, hrest, rfl⟩
    · rintro ⟨d, rest, hd, hrest, rfl⟩
      exact ⟨d, hd, rest, hrest, rfl⟩

theorem ofDigits_eq (base : Nat) (ds : List Nat) : ofDigits base ds = Nat.ofDigits base ds.reverse := by
  rw [ofDigits, Nat.ofDigits_eq_foldr, List.foldr_reverse]
  simp only [Nat.cast_id, Nat.add_comm]

/-- One or more digits, and the number that they write in a base. -/
def IsNumeral (isDigit : Char → Nat → Prop) (base : Nat) (cs : List Char) (n : Nat) : Prop :=
  cs ≠ [] ∧ ∃ ds, List.Forall₂ isDigit cs ds ∧ n = Nat.ofDigits base ds.reverse

/-- The reading of one or more digits finds the number that they write. -/
theorem isNumeral_iff (value? : Char → Option Nat) {isDigit : Char → Nat → Prop} {base : Nat}
    (h : ∀ {c d}, value? c = some d ↔ isDigit c d) :
    IsNumeral isDigit base cs n ↔
      ∃ d ds, digits? value? cs = some (d :: ds) ∧ n = ofDigits base (d :: ds) := by
  have hdigit : (fun c d => value? c = some d) = isDigit := by
    funext c d
    exact propext h
  constructor
  · rintro ⟨hne, ds, hds, rfl⟩
    cases hds with
    | nil => exact absurd rfl hne
    | @cons c d cs ds hc hcs =>
      refine ⟨d, ds, ?_, (ofDigits_eq base (d :: ds)).symm⟩
      rw [digits?_eq_some_iff, hdigit]
      exact .cons hc hcs
  · rintro ⟨d, ds, hds, rfl⟩
    rw [digits?_eq_some_iff, hdigit] at hds
    refine ⟨?_, d :: ds, hds, ofDigits_eq base (d :: ds)⟩
    rintro rfl
    cases hds

theorem IsNumeral.exists_digit {isDigit : Char → Nat → Prop} {base : Nat} (h : IsNumeral isDigit base cs n)
    (hc : c ∈ cs) : ∃ d, isDigit c d := by
  obtain ⟨-, ds, hds, -⟩ := h
  induction hds with
  | nil => cases hc
  | cons hd _ ih =>
    rcases List.mem_cons.mp hc with rfl | hc
    · exact ⟨_, hd⟩
    · exact ih hc

/-! ### Blanks around a text -/

theorem isBlank_eq_false_iff : isBlank c = false ↔ ∀ r ∈ blankRanges, c.toNat < r.1 ∨ r.2 < c.toNat := by
  rw [isBlank, inRanges, List.any_eq_false]
  refine forall₂_congr fun r _ => ?_
  rw [Bool.and_eq_true, decide_eq_true_eq, decide_eq_true_eq]
  omega

theorem IsHexDigit.isBlank_eq_false (h : IsHexDigit c d) : isBlank c = false := by
  have hletter (h : 'A'.toNat ≤ c.toNat) (h' : c.toNat ≤ 'f'.toNat) : isBlank c = false := by
    have hranges : ∀ r ∈ blankRanges, r.2 < 'A'.toNat ∨ 'f'.toNat < r.1 := by decide
    refine isBlank_eq_false_iff.mpr fun r hr => ?_
    have := hranges r hr
    omega
  rcases h with ⟨z, hmem, hd, hc⟩ | ⟨h, -⟩ | ⟨h, -⟩
  · refine isBlank_eq_false_iff.mpr fun r hr => ?_
    have := zeroDigits_not_blank z hmem r hr
    omega
  · rw [le_iff_toNat_le, le_iff_toNat_le] at h
    exact hletter (Nat.le_trans (by decide) h.1) h.2
  · rw [le_iff_toNat_le, le_iff_toNat_le] at h
    exact hletter h.1 (Nat.le_trans h.2 (by decide))

/-- Trimming takes blanks away at both ends. -/
theorem exists_blanks (cs : List Char) :
    ∃ before after, cs = before ++ trim cs ++ after ∧ before.all isBlank ∧ after.all isBlank := by
  have htake : cs = cs.takeWhile isBlank ++ cs.dropWhile isBlank := List.takeWhile_append_dropWhile.symm
  have hrest : cs.dropWhile isBlank = trim cs ++ ((cs.dropWhile isBlank).reverse.takeWhile isBlank).reverse := by
    rw [trim, dropWhileEnd, ← List.reverse_append, List.takeWhile_append_dropWhile, List.reverse_reverse]
  refine ⟨cs.takeWhile isBlank, ((cs.dropWhile isBlank).reverse.takeWhile isBlank).reverse, ?_,
    List.all_takeWhile, ?_⟩
  · rw [List.append_assoc, ← hrest]
    exact htake
  · rw [List.all_reverse]
    exact List.all_takeWhile

/-- What stands between blanks, and has none itself, is left by trimming. -/
theorem trim_append {before core after : List Char} (hbefore : before.all isBlank) (hafter : after.all isBlank)
    (hcore : ∀ c ∈ core, isBlank c = false) : trim (before ++ core ++ after) = core := by
  have hdrop (blanks : List Char) {rest : List Char} (hblanks : blanks.all isBlank)
      (hrest : ∀ c, rest.head? = some c → isBlank c = false) : (blanks ++ rest).dropWhile isBlank = rest := by
    rw [List.dropWhile_append_of_pos (List.all_eq_true.mp hblanks)]
    cases rest with
    | nil => rfl
    | cons c rest => exact List.dropWhile_cons_of_neg (ne_true_of_eq_false (hrest c rfl))
  rw [trim, dropWhileEnd, List.append_assoc, List.reverse_eq_iff]
  cases core with
  | nil =>
    rw [List.nil_append, List.dropWhile_append_of_pos (List.all_eq_true.mp hbefore),
      List.dropWhile_eq_nil_iff.mpr (List.all_eq_true.mp hafter)]
    rfl
  | cons c core =>
    rw [hdrop before hbefore (by rintro _ ⟨⟩; exact hcore c (.head _)), List.reverse_append]
    refine hdrop after.reverse (by rwa [List.all_reverse]) fun last hlast => ?_
    exact hcore last (List.mem_reverse.mp (List.mem_of_head? hlast))

end Text

namespace Tracker

open Text

/-! ### Identifiers -/

/-- The marks of a hexadecimal number. -/
def hexMarks : List (List Char) := [['0', 'x'], ['0', 'X'], ['#']]

/-- What may stand between the mark of a hexadecimal number and its digits: nothing, or a zero of any script and
an `x`. -/
inductive IsInnerMark : List Char → Prop where
  /-- Nothing. -/
  | nothing : IsInnerMark []
  /-- A zero and an `x`. -/
  | zero {z x : Char} (hz : IsDecimalDigit z 0) (hx : x = 'x' ∨ x = 'X') : IsInnerMark [z, x]

/-- A number without a sign. -/
inductive IsMagnitude : List Char → Nat → Prop where
  /-- At most 4300 decimal digits. -/
  | decimal {digits : List Char} {n : Nat} (h : IsNumeral IsDecimalDigit 10 digits n)
    (hlength : digits.length ≤ 4300) : IsMagnitude digits n
  /-- Hexadecimal digits after a mark, however many. -/
  | hexadecimal {mark inner digits : List Char} {n : Nat} (hmark : mark ∈ hexMarks) (hinner : IsInnerMark inner)
    (h : IsNumeral IsHexDigit 16 digits n) : IsMagnitude (mark ++ (inner ++ digits)) n

/-- A number with or without a sign. -/
inductive IsSigned : List Char → Int → Prop where
  /-- No sign. -/
  | bare {cs : List Char} {n : Nat} (h : IsMagnitude cs n) : IsSigned cs n
  /-- A plus sign. -/
  | plus {cs : List Char} {n : Nat} (h : IsMagnitude cs n) : IsSigned ('+' :: cs) n
  /-- A minus sign. -/
  | minus {cs : List Char} {n : Nat} (h : IsMagnitude cs n) : IsSigned ('-' :: cs) (-n)

/-- A text is an identifier: a number with blanks around it. -/
def IsIdentifier (cs : List Char) (id : Int) : Prop :=
  ∃ before core after, cs = before ++ core ++ after ∧ before.all isBlank ∧ after.all isBlank ∧ IsSigned core id

theorem afterHexMark?_eq_some_iff : afterHexMark? cs = some digits ↔ ∃ mark ∈ hexMarks, cs = mark ++ digits := by
  simp only [hexMarks, List.mem_cons, List.not_mem_nil, or_false, exists_eq_or_imp, exists_eq_left]
  unfold afterHexMark?
  split <;> simp_all [eq_comm]

theorem not_isHexDigit (h : hexValue? c = none) : ¬ IsHexDigit c d := by
  rw [← hexValue?_eq_some_iff, h]
  exact nofun

theorem not_isDecimalDigit (h : decimalValue? c = none) : ¬ IsDecimalDigit c d := by
  rw [← decimalValue?_eq_some_iff, h]
  exact nofun

/-- The mark of the digits is dropped, and nothing of the digits: none of them is an `x`. -/
theorem dropHexMark_append {inner : List Char} (h : IsInnerMark inner)
    (hdigits : ∀ c ∈ digits, ∃ d, IsHexDigit c d) : dropHexMark (inner ++ digits) = digits := by
  cases h with
  | @zero z x hz hx =>
    have hz : decimalValue? z = some 0 := decimalValue?_eq_some_iff.mpr hz
    rcases hx with rfl | rfl <;> simp [dropHexMark, hz]
  | nothing =>
    have hx {x : Char} (hx : hexValue? x = none) : x ∉ digits := fun hmem =>
      (hdigits x hmem).elim fun _ => not_isHexDigit hx
    rw [List.nil_append]
    unfold dropHexMark
    split
    · exact absurd (.tail _ (.head _)) (hx (by decide : hexValue? 'x' = none))
    · exact absurd (.tail _ (.head _)) (hx (by decide : hexValue? 'X' = none))
    · rfl

theorem exists_innerMark (cs : List Char) : ∃ inner, IsInnerMark inner ∧ cs = inner ++ dropHexMark cs := by
  have hmark {z x : Char} {rest : List Char} (hx : x = 'x' ∨ x = 'X') : ∃ inner, IsInnerMark inner ∧
      z :: x :: rest = inner ++ if decimalValue? z == some 0 then rest else z :: x :: rest := by
    by_cases hz : decimalValue? z = some 0
    · exact ⟨[z, x], .zero (decimalValue?_eq_some_iff.mp hz) hx, by simp [hz]⟩
    · exact ⟨[], .nothing, by simp [hz]⟩
  unfold dropHexMark
  split
  · exact hmark (.inl rfl)
  · exact hmark (.inr rfl)
  · exact ⟨[], .nothing, rfl⟩

theorem hexNumber?_eq_some_iff :
    hexNumber? cs = some n ↔ ∃ inner digits, IsInnerMark inner ∧ cs = inner ++ digits ∧
      IsNumeral IsHexDigit 16 digits n := by
  have hread : hexNumber? cs = some n ↔ IsNumeral IsHexDigit 16 (dropHexMark cs) n := by
    rw [isNumeral_iff hexValue? hexValue?_eq_some_iff, hexNumber?]
    rcases digits? hexValue? (dropHexMark cs) with _ | _ | ⟨d, ds⟩ <;> simp [eq_comm]
  rw [hread]
  constructor
  · intro h
    obtain ⟨inner, hinner, hcs⟩ := exists_innerMark cs
    exact ⟨inner, dropHexMark cs, hinner, hcs, h⟩
  · rintro ⟨inner, digits, hinner, rfl, h⟩
    rwa [dropHexMark_append hinner fun c hc => h.exists_digit hc]

theorem decimalNumber?_eq_some_iff :
    decimalNumber? cs = some n ↔ IsNumeral IsDecimalDigit 10 cs n ∧ cs.length ≤ 4300 := by
  rw [isNumeral_iff decimalValue? decimalValue?_eq_some_iff, decimalNumber?]
  have hlength {ds : List Nat} (h : digits? decimalValue? cs = some ds) : cs.length = ds.length :=
    (digits?_eq_some_iff.mp h).length_eq
  revert hlength
  rcases digits? decimalValue? cs with _ | _ | ⟨d, ds⟩
  · simp
  · simp
  · intro hlength
    rw [hlength rfl]
    simp [digitLimit, eq_comm, and_comm]

/-- No mark of a hexadecimal number is made of decimal digits only. -/
theorem exists_not_digit_of_hexMarks : ∀ mark ∈ hexMarks, ∃ c ∈ mark, decimalValue? c = none := by
  have hmarks : hexMarks.all fun mark => mark.any fun c => (decimalValue? c).isNone := by decide +kernel
  intro mark hmark
  obtain ⟨c, hc, hnone⟩ := List.any_eq_true.mp (List.all_eq_true.mp hmarks mark hmark)
  exact ⟨c, hc, Option.isNone_iff_eq_none.mp hnone⟩

theorem magnitude?_eq_some_iff : magnitude? cs = some n ↔ IsMagnitude cs n := by
  unfold magnitude?
  constructor
  · intro h
    split at h
    · rename_i rest hmark
      obtain ⟨mark, hmem, rfl⟩ := afterHexMark?_eq_some_iff.mp hmark
      obtain ⟨inner, digits, hinner, rfl, hn⟩ := hexNumber?_eq_some_iff.mp h
      exact .hexadecimal hmem hinner hn
    · obtain ⟨hn, hlength⟩ := decimalNumber?_eq_some_iff.mp h
      exact .decimal hn hlength
  · rintro (⟨hn, hlength⟩ | @⟨mark, inner, digits, n, hmark, hinner, hn⟩)
    · have hnone : afterHexMark? cs = none := by
        rw [Option.eq_none_iff_forall_ne_some]
        intro rest hrest
        obtain ⟨mark, hmark, rfl⟩ := afterHexMark?_eq_some_iff.mp hrest
        obtain ⟨c, hc, hno⟩ := exists_not_digit_of_hexMarks mark hmark
        obtain ⟨d, hd⟩ := hn.exists_digit (List.mem_append_left _ hc)
        exact not_isDecimalDigit hno hd
      rw [hnone]
      exact decimalNumber?_eq_some_iff.mpr ⟨hn, hlength⟩
    · rw [afterHexMark?_eq_some_iff.mpr ⟨mark, hmark, rfl⟩]
      exact hexNumber?_eq_some_iff.mpr ⟨inner, digits, hinner, rfl, hn⟩

/-! ### Signs and blanks -/

/-- What a number without a sign is made of. -/
theorem IsMagnitude.mem_cases (h : IsMagnitude cs n) (hc : c ∈ cs) :
    (∃ d, IsHexDigit c d) ∨ c ∈ ['x', 'X', '#'] := by
  rcases h with ⟨hn, -⟩ | @⟨mark, inner, digits, n, hmark, hinner, hn⟩
  · obtain ⟨d, hd⟩ := hn.exists_digit hc
    exact .inl ⟨d, .decimal hd⟩
  rcases List.mem_append.mp hc with hc | hc
  · have hmarks : hexMarks.all fun mark => mark.all fun c => (hexValue? c).isSome || ['x', 'X', '#'].contains c := by
      decide +kernel
    rcases Bool.or_eq_true_iff.mp (List.all_eq_true.mp (List.all_eq_true.mp hmarks mark hmark) c hc) with hd | hmem
    · obtain ⟨d, hd⟩ := Option.isSome_iff_exists.mp hd
      exact .inl ⟨d, hexValue?_eq_some_iff.mp hd⟩
    · exact .inr (List.contains_iff_mem.mp hmem)
  rcases List.mem_append.mp hc with hc | hc
  · cases hinner with
    | nothing => cases hc
    | @zero z x hz hx =>
      rcases List.mem_cons.mp hc with rfl | hc
      · exact .inl ⟨0, .decimal hz⟩
      · obtain rfl := List.mem_singleton.mp hc
        rcases hx with rfl | rfl <;> exact .inr (by decide)
  · exact .inl (hn.exists_digit hc)

theorem IsMagnitude.isBlank_eq_false (h : IsMagnitude cs n) (hc : c ∈ cs) : isBlank c = false := by
  have hothers : ['x', 'X', '#'].all (!isBlank ·) := by decide +kernel
  rcases h.mem_cases hc with ⟨d, hd⟩ | hc
  · exact hd.isBlank_eq_false
  · simpa using List.all_eq_true.mp hothers c hc

theorem IsSigned.isBlank_eq_false {id : Int} (h : IsSigned cs id) (hc : c ∈ cs) : isBlank c = false := by
  rcases h with hn | hn | hn
  · exact hn.isBlank_eq_false hc
  all_goals
    rcases List.mem_cons.mp hc with rfl | hc
    · decide
    · exact hn.isBlank_eq_false hc

/-- No sign is part of a number without a sign. -/
theorem IsMagnitude.not_mem (h : IsMagnitude cs n) {sign : Char} (hsign : sign ∈ ['-', '+']) : sign ∉ cs := by
  obtain ⟨hdigit, hother⟩ : hexValue? sign = none ∧ sign ∉ ['x', 'X', '#'] := by
    rcases List.mem_pair.mp hsign with rfl | rfl <;> exact ⟨by decide +kernel, by decide⟩
  intro hmem
  rcases h.mem_cases hmem with ⟨d, hd⟩ | hmem
  · exact not_isHexDigit hdigit hd
  · exact hother hmem

theorem IsMagnitude.splitSign_eq (h : IsMagnitude cs n) : splitSign cs = (false, cs) := by
  unfold splitSign
  split
  · exact absurd (.head _) (h.not_mem (by decide : '-' ∈ ['-', '+']))
  · exact absurd (.head _) (h.not_mem (by decide : '+' ∈ ['-', '+']))
  · rfl

theorem splitSign_iff {id : Int} :
    ((magnitude? (splitSign cs).2).map fun n : Nat => if (splitSign cs).1 then -(n : Int) else n) = some id ↔
      IsSigned cs id := by
  constructor
  · intro h
    obtain ⟨n, hn, rfl⟩ := Option.map_eq_some_iff.mp h
    rw [magnitude?_eq_some_iff] at hn
    revert hn
    unfold splitSign
    split
    · exact .minus
    · exact .plus
    · exact .bare
  · rintro (hn | hn | hn)
    · rw [hn.splitSign_eq, magnitude?_eq_some_iff.mpr hn]
      rfl
    · rw [splitSign, magnitude?_eq_some_iff.mpr hn]
      rfl
    · rw [splitSign, magnitude?_eq_some_iff.mpr hn]
      rfl

/-- **What is read is an identifier, and every identifier is read**, with its number. -/
theorem attachmentId?_eq_some_iff {id : Int} : attachmentId? cs = some id ↔ IsIdentifier cs id := by
  have hread : attachmentId? cs = some id ↔ IsSigned (trim cs) id := by
    rw [← splitSign_iff, attachmentId?]
    rcases splitSign (trim cs) with ⟨isNegative, digits⟩
    dsimp only
    cases magnitude? digits <;> rfl
  rw [hread]
  constructor
  · intro h
    obtain ⟨before, after, hcs, hbefore, hafter⟩ := exists_blanks cs
    exact ⟨before, trim cs, after, hcs, hbefore, hafter, h⟩
  · rintro ⟨before, core, after, rfl, hbefore, hafter, h⟩
    rwa [trim_append hbefore hafter fun c hc => h.isBlank_eq_false hc]

theorem readAttachmentId_eq_ok_iff_attachmentId? {text : String} {id : Int} :
    readAttachmentId text = .ok id ↔ attachmentId? text.toList = some id := by
  rw [readAttachmentId]
  cases attachmentId? text.toList <;> simp

/-- **A text is read as a number exactly if it is an identifier that stands for that number**; all other texts
have the fault that names the identifier of an attachment. -/
theorem readAttachmentId_eq_ok_iff (text : String) :
    (∀ id, readAttachmentId text = .ok id ↔ IsIdentifier text.toList id) ∧
      ((¬ ∃ id, IsIdentifier text.toList id) ↔ readAttachmentId text = .error (.badAttachmentId text)) ∧
      (InputFault.badAttachmentId text).field? = some "id" ∧
      (InputFault.badAttachmentId text).parent? = some "attachment" := by
  refine ⟨fun id => ?_, ?_, rfl, rfl⟩
  · rw [readAttachmentId_eq_ok_iff_attachmentId?, attachmentId?_eq_some_iff]
  · simp only [← attachmentId?_eq_some_iff, readAttachmentId]
    cases attachmentId? text.toList <;> simp

/-- The digits after a mark may have a mark once more. -/
example : readAttachmentId " -#0XfF\n" = .ok (-255) := by decide +kernel

/-- Digits are not grouped. -/
example : readAttachmentId "1_000" = .error (.badAttachmentId "1_000") := by decide +kernel

end Tracker

end ReleaseNotes
