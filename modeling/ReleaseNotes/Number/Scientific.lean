import ReleaseNotes.Text.Digit

/-!
# Scientific notation

Reading a floating-point number: a sign, digits with a point among them, and an
exponent. The number is the one nearest to what is written.
-/

namespace ReleaseNotes.Number

/-- A decimal number as it is written, before it is rounded. -/
structure Scientific where
  /-- Whether a minus sign is in front. -/
  isNegative : Bool
  /-- The values of the digits before the point and after it, in order. -/
  digits : List Nat
  /-- The power of ten that the last digit counts. -/
  exponent : Int
  deriving DecidableEq, Repr

/-- A decimal so large that it rounds to infinity has its first digit at this power of ten or
above; one whose first digit is as far below zero rounds to zero. -/
def exponentBound : Int := 400

/-- The floating-point number nearest to a decimal. -/
def Scientific.value (s : Scientific) : Float :=
  let digits := s.digits.dropWhile (· == 0)
  let size : Float :=
    if digits.isEmpty then 0
    else
      let top := s.exponent + digits.length
      if exponentBound < top then 1 / 0
      else if top < -exponentBound then 0
      else Float.ofScientific (Text.ofDigits 10 digits) (s.exponent < 0) s.exponent.natAbs
  if s.isNegative then -size else size

/-- The value of an ASCII digit. -/
def asciiDigit? (c : Char) : Option Nat :=
  if c.isDigit then some (c.toNat - 48) else none

/-- The values of the ASCII digits at the start of a text, and what follows them. -/
def takeDigits (cs : List Char) : List Nat × List Char :=
  ((cs.takeWhile Char.isDigit).filterMap asciiDigit?, cs.dropWhile Char.isDigit)

/-- The sign at the start of a text, negative or not, and what follows it. -/
def takeSign : List Char → Bool × List Char
  | '-' :: rest => (true, rest)
  | '+' :: rest => (false, rest)
  | cs => (false, cs)

theorem length_takeSign (cs : List Char) : (takeSign cs).2.length ≤ cs.length := by
  rw [takeSign.eq_def]
  split <;> simp

/-- The exponent that a text must be, if it is not empty: an `e`, a sign and digits. -/
def exponent? : List Char → Option Int
  | [] => some 0
  | e :: rest =>
    if e == 'e' || e == 'E' then
      let (isNegative, rest) := takeSign rest
      match takeDigits rest with
      | ([], _) => none
      | (digits, []) =>
        let size : Int := Text.ofDigits 10 digits
        some (if isNegative then -size else size)
      | _ => none
    else none

/-- The decimal that a text is: digits with at most one point among or around them, and an
exponent. -/
def Scientific.ofChars? (cs : List Char) : Option Scientific :=
  let (isNegative, cs) := takeSign cs
  let (whole, cs) := takeDigits cs
  let (fraction, cs) := match cs with
    | '.' :: rest => takeDigits rest
    | _ => ([], cs)
  if whole.isEmpty && fraction.isEmpty then none
  else (exponent? cs).map fun e => ⟨isNegative, whole ++ fraction, e - fraction.length⟩

/-- The words for an infinity, in lower case. -/
def infinityWords : List String := ["inf", "infinity"]

/-- The word for what is not a number, in lower case. -/
def undefinedWord : String := "nan"

/-- The floating-point number that a text is: a decimal, or a word in any case with a sign. -/
def float? (cs : List Char) : Option Float :=
  let (isNegative, rest) := takeSign cs
  let word := String.ofList (rest.map Char.toLower)
  if infinityWords.contains word then some (if isNegative then -(1 / 0) else 1 / 0)
  else if word == undefinedWord then some (if isNegative then -(0 / 0) else 0 / 0)
  else (Scientific.ofChars? cs).map Scientific.value

end ReleaseNotes.Number
