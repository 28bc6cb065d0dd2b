import ReleaseNotes.Number.Shortest

/-!
# Floored division

The quotient of two floating-point numbers rounded down to a whole number, and the remainder, which
has the sign of the divisor. The remainder of a division toward zero is exact, since it is computed
on naturals; the other results come from it.
-/

namespace ReleaseNotes.Number

/-- What is left of a number when another one has been taken away as often as possible. -/
def Binary.remainder (a b : Binary) : Float :=
  let e := min a.exponent b.exponent
  let left := a.mantissa * raise 2 (a.exponent - e) % (b.mantissa * raise 2 (b.exponent - e))
  (Float.ofNat left).scaleB e

/-- A zero with the sign of a number. -/
def zeroLike (x : Float) : Float :=
  if (shape x).1 then -0.0 else 0.0

/-- The remainder of a division toward zero. It has the sign of the dividend. -/
def truncatedRemainder (x y : Float) : Float :=
  match shape x, shape y with
  | (isNegative, .finite a), (_, .finite b) => if isNegative then -a.remainder b else a.remainder b
  | (_, .finite _), (_, .infinite) => x
  | (_, .zero), (_, .finite _) => x
  | (_, .zero), (_, .infinite) => x
  | _, _ => x - x + (y - y)

/-- Whether a remainder and a divisor have different signs. -/
def isAcross (left y : Float) : Bool :=
  left != 0 && (y < 0) != (left < 0)

/-- The remainder of a floored division. It has the sign of the divisor. -/
def flooredRemainder (x y : Float) : Float :=
  let left := truncatedRemainder x y
  if left == 0 then zeroLike y
  else if isAcross left y then left + y
  else left

/-- The quotient of a floored division. -/
def flooredQuotient (x y : Float) : Float :=
  let left := truncatedRemainder x y
  let quotient := (x - left) / y
  let quotient := if isAcross left y then quotient - 1 else quotient
  let whole := quotient.floor
  if quotient == 0 then zeroLike (x / y)
  else if quotient - whole > 0.5 then whole + 1
  else whole

end ReleaseNotes.Number
