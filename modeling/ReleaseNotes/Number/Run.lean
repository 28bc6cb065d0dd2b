import ReleaseNotes.Number.Scientific

/-!
# Runs of digits

The digits at the start of a text, with single underscores between them, and the fraction and
the exponent that may follow. Every reader gives back what it took and what follows it.
-/

namespace ReleaseNotes.Number

/-- The value of a hexadecimal ASCII digit. -/
def asciiHex? (c : Char) : Option Nat :=
  if c.toNat < 0x80 then Text.hexValue? c else none

/-- The value of an octal digit. -/
def octal? (c : Char) : Option Nat :=
  if '0' ≤ c ∧ c ≤ '7' then some (c.toNat - 48) else none

/-- The value of a binary digit. -/
def binary? (c : Char) : Option Nat :=
  if c == '0' then some 0 else if c == '1' then some 1 else none

/-- The number that digits stand for in a base. -/
def ofRun (base : Nat) (digits : List Char) : Nat :=
  Text.ofDigits base (digits.filterMap asciiHex?)

/-- More digits of a number, each of which may have an underscore before it, and what follows
them. -/
def takeMoreDigits (isDigit : Char → Bool) : List Char → List Char × List Char
  | '_' :: d :: rest =>
    if isDigit d then
      let (more, after) := takeMoreDigits isDigit rest
      (d :: more, after)
    else ([], '_' :: d :: rest)
  | d :: rest =>
    if isDigit d then
      let (more, after) := takeMoreDigits isDigit rest
      (d :: more, after)
    else ([], d :: rest)
  | [] => ([], [])

theorem length_takeMoreDigits (isDigit : Char → Bool) (cs : List Char) :
    (takeMoreDigits isDigit cs).1.length + (takeMoreDigits isDigit cs).2.length ≤ cs.length := by
  fun_induction takeMoreDigits isDigit cs <;> grind

/-- Digits with single underscores between them, and what follows them. -/
def takeRun (isDigit : Char → Bool) (cs : List Char) : List Char × List Char :=
  if (cs.head?.map isDigit).getD false then takeMoreDigits isDigit cs else ([], cs)

theorem length_takeRun (isDigit : Char → Bool) (cs : List Char) :
    (takeRun isDigit cs).1.length + (takeRun isDigit cs).2.length ≤ cs.length := by
  have := length_takeMoreDigits isDigit cs
  grind [takeRun]

/-- The digits of a fraction after its point, and what follows them. Without digits there is no
fraction. -/
def takeFraction : List Char → List Char × List Char
  | '.' :: rest =>
    match takeRun Char.isDigit rest with
    | ([], _) => ([], '.' :: rest)
    | found => found
  | cs => ([], cs)

theorem length_takeFraction (cs : List Char) : (takeFraction cs).2.length ≤ cs.length := by
  rw [takeFraction.eq_def]
  split
  · next rest =>
    have := length_takeRun Char.isDigit rest
    grind
  · exact Nat.le_refl _

/-- An exponent, and what follows it. -/
def takeExponent? : List Char → Option (Int × List Char)
  | e :: rest =>
    if e == 'e' || e == 'E' then
      let (isNegative, digits) := takeSign rest
      match takeRun Char.isDigit digits with
      | ([], _) => none
      | (run, after) =>
        let size : Int := ofRun 10 run
        some (if isNegative then -size else size, after)
    else none
  | [] => none

theorem length_takeExponent? {cs rest : List Char} {e : Int} (h : takeExponent? cs = some (e, rest)) :
    rest.length ≤ cs.length := by
  rw [takeExponent?.eq_def] at h
  split at h
  · next c digits =>
    have := length_takeSign digits
    have := length_takeRun Char.isDigit (takeSign digits).2
    grind
  · cases h

/-- The floating-point number with some digits before and after the point and an exponent. -/
def floatOf (isNegative : Bool) (whole fraction : List Char) (exponent : Int) : Float :=
  Scientific.value ⟨isNegative, (whole ++ fraction).filterMap asciiDigit?,
    exponent - fraction.length⟩

end ReleaseNotes.Number
