import ReleaseNotes.Number.Scientific
import ReleaseNotes.Number.Shortest
import ReleaseNotes.Text.Blank
import ReleaseNotes.Text.Decimal

/-!
# Whole numbers

Reading an integer in any base up to 36, and a floating-point number rounded toward zero.
Digits may be of any script, with single underscores between them, and white space may
stand around the text (`integerIn?`, `looseFloat?`).
-/

namespace ReleaseNotes.Number

/-- The value of a digit in the highest base: a decimal digit of any script, or a letter. -/
def digitValue? (c : Char) : Option Nat :=
  if 'a' ≤ c ∧ c ≤ 'z' then some (c.toNat - 87)
  else if 'A' ≤ c ∧ c ≤ 'Z' then some (c.toNat - 55)
  else Text.decimalValue? c

/-- A text without the underscores that stand between two characters of some kind; another
underscore stays. `before` tells whether the character before is of that kind. -/
def dropJoints (isKind : Char → Bool) (before : Bool) : List Char → List Char
  | '_' :: c :: rest =>
    if before && isKind c then c :: dropJoints isKind true rest
    else '_' :: dropJoints isKind false (c :: rest)
  | c :: rest => c :: dropJoints isKind (isKind c) rest
  | [] => []

/-- The base that a letter after a zero stands for. -/
def letterBase? (c : Char) : Option Nat :=
  if c == 'x' || c == 'X' then some 16
  else if c == 'o' || c == 'O' then some 8
  else if c == 'b' || c == 'B' then some 2
  else none

/-- The base that a text is written in and its digits, when the base wanted is known; with zero
the text says which. -/
def splitBase (base : Nat) : List Char → Nat × List Char
  | '0' :: c :: rest =>
    match letterBase? c with
    | some found =>
      if base == found || base == 0 then
        (found, match rest with
          | '_' :: more => more
          | _ => rest)
      else (base, '0' :: c :: rest)
    | none => (if base == 0 then 10 else base, '0' :: c :: rest)
  | cs => (if base == 0 then 10 else base, cs)

/-- Whether digits begin with a zero that they should not begin with. -/
def hasIdleZero (digits : List Nat) : Bool :=
  digits.head? == some 0 && digits.any (· != 0)

/-- Whether a base is a power of two. -/
def isBinaryBase (base : Nat) : Bool :=
  [2, 4, 8, 16, 32].contains base

/-- The whole number that digits stand for in a base. There may be no more of them than a decimal
number may have, unless the base is a power of two. -/
def digitsIn? (base : Nat) (cs : List Char) : Option (List Nat) :=
  match (dropJoints (fun c => (digitValue? c).isSome) false cs).mapM digitValue? with
  | some digits =>
    if digits.isEmpty || digits.any (base ≤ ·) then none
    else if !isBinaryBase base && Text.digitLimit < digits.length then none
    else some digits
  | none => none

/-- A decimal digit of any script as an ASCII digit. -/
def asciiForm (c : Char) : Char :=
  match Text.decimalValue? c with
  | some n => Char.ofNat (48 + n)
  | none => c

/-- The integer that a text is in a base. With zero for a base, the text says which one it is. -/
def integerIn? (base : Nat) (cs : List Char) : Option Int :=
  if base == 1 || 36 < base then none
  else
    let (isNegative, cs) := takeSign ((Text.trimWhite cs).map asciiForm)
    let (found, cs) := splitBase base cs
    match digitsIn? found cs with
    | some digits =>
      if base == 0 && found == 10 && hasIdleZero digits then none
      else
        let size : Int := Text.ofDigits found digits
        some (if isNegative then -size else size)
    | none => none

/-- The floating-point number that a text is, with white space around it, digits of any script and
single underscores between them. -/
def looseFloat? (cs : List Char) : Option Float :=
  float? (dropJoints Char.isDigit false ((Text.trimWhite cs).map asciiForm))

/-- The size of a binary number without its fraction. -/
def Binary.whole (b : Binary) : Nat :=
  if 0 ≤ b.exponent then b.mantissa * Nat.pow 2 b.exponent.toNat
  else b.mantissa / Nat.pow 2 b.exponent.natAbs

/-- A floating-point number rounded toward zero, if it is finite. -/
def truncated? (x : Float) : Option Int :=
  match shape x with
  | (_, .zero) => some 0
  | (isNegative, .finite size) =>
    let n : Int := size.whole
    some (if isNegative then -n else n)
  | _ => none

end ReleaseNotes.Number
