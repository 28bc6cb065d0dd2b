/-!
# Shortest decimals

The fewest digits that stand for a floating-point number.

A positive finite number is `m * 2 ^ q`. The reals that round to it form an interval
around it, whose ends belong to it exactly when `m` is even. Of all decimals in that
interval the one wanted is a multiple of the highest power of ten that has any
multiple there, and of those multiples the one nearest to the number. All of this is
decided in exact arithmetic on naturals (`Binary.shortest`).

A number is written with its digits in place between `10⁻⁴` and `10¹⁶`, always with a
point, and with an exponent of at least two digits outside of that range
(`floatText`).
-/

namespace ReleaseNotes.Number

/-- The positive number `mantissa * 2 ^ exponent`. -/
structure Binary where
  /-- The whole number in front. -/
  mantissa : Nat
  /-- The power of two. -/
  exponent : Int
  /-- Whether the next lower number is only half as far away as the next higher one. -/
  isEdge : Bool
  deriving DecidableEq, Repr

/-- The number `digits * 10 ^ exponent`. -/
structure Decimal where
  /-- The digits, read as a whole number. -/
  digits : Nat
  /-- The power of ten. -/
  exponent : Int
  deriving DecidableEq, Repr

/-- A base to the positive part of an exponent. -/
def raise (base : Nat) (e : Int) : Nat :=
  Nat.pow base e.toNat

/-- A quarter of the number's unit, in units of `1 / (2 ^ q⁻ * 10 ^ g⁻)`, where `q⁻` and `g⁻`
are the negative parts of the exponents of the quarter and of a grid. -/
def Binary.quarter (b : Binary) (g : Int) : Nat :=
  raise 2 (b.exponent - 2) * raise 10 (-g)

/-- The step of the grid of multiples of `10 ^ g`, in the units of `Binary.quarter`. -/
def Binary.gridStep (b : Binary) (g : Int) : Nat :=
  raise 10 g * raise 2 (2 - b.exponent)

/-- Whether a real lies in the interval of those that round to a number, both in the units of
`Binary.quarter`. -/
def Binary.covers (b : Binary) (g : Int) (x : Nat) : Bool :=
  let low := (4 * b.mantissa - if b.isEdge then 1 else 2) * b.quarter g
  let high := (4 * b.mantissa + 2) * b.quarter g
  if b.mantissa % 2 == 0 then low ≤ x && x ≤ high else low < x && x < high

/-- The multiple of `10 ^ g` that rounds to a number, the nearest if there are two. -/
def Binary.onGrid? (b : Binary) (g : Int) : Option Nat :=
  let step := b.gridStep g
  let value := 4 * b.mantissa * b.quarter g
  let below := value / step
  let above := below + 1
  match b.covers g (below * step), b.covers g (above * step) with
  | false, false => none
  | true, false => some below
  | false, true => some above
  | true, true =>
    let down := value - below * step
    let up := above * step - value
    if down < up then some below
    else if up < down then some above
    else if below % 2 == 0 then some below else some above

/-- The decimal on the coarsest grid that has one, of the grids from `10 ^ g` down. -/
def Binary.shortestFrom (b : Binary) : Nat → Int → Decimal
  | 0, g => ⟨0, g⟩
  | fuel + 1, g =>
    match b.onGrid? g with
    | some k => ⟨k, g⟩
    | none => b.shortestFrom fuel (g - 1)

/-- The exponent of the coarsest grid on which a number can lie. -/
def highestGrid : Int := 309

/-- The number of grids between the coarsest one and the finest one that is ever needed. -/
def gridCount : Nat := 640

/-- The shortest decimal that rounds to a number. -/
def Binary.shortest (b : Binary) : Decimal :=
  b.shortestFrom gridCount highestGrid

/-- A whole number of zeros. -/
def zeros (n : Nat) : List Char :=
  List.replicate n '0'

/-- An exponent with its sign and at least two digits. -/
def exponentText (e : Int) : List Char :=
  let digits := (toString e.natAbs).toList
  (if e < 0 then '-' else '+') :: (if digits.length < 2 then '0' :: digits else digits)

/-- The text of a positive decimal. -/
def Decimal.text (d : Decimal) : List Char :=
  let digits := (toString d.digits).toList
  let point : Int := digits.length + d.exponent
  if point ≤ -4 ∨ 16 < point then
    let fraction := if digits.length == 1 then [] else '.' :: digits.drop 1
    digits.take 1 ++ fraction ++ 'e' :: exponentText (point - 1)
  else if point ≤ 0 then ['0', '.'] ++ zeros (-point).toNat ++ digits
  else if point < digits.length then
    digits.take point.toNat ++ '.' :: digits.drop point.toNat
  else digits ++ zeros d.exponent.toNat ++ ['.', '0']

/-- What a floating-point number is: no number, an infinity, zero, or a positive number with
its sign put aside. -/
inductive Shape where
  /-- Not a number. -/
  | undefined
  /-- An infinity. -/
  | infinite
  /-- A zero. -/
  | zero
  /-- A positive finite number. -/
  | finite (size : Binary)
  deriving DecidableEq, Repr

/-- The sign of a floating-point number, negative or not, and the rest of it. -/
def shape (x : Float) : Bool × Shape :=
  let bits := x.toBits.toNat
  let isNegative := decide (Nat.pow 2 63 ≤ bits)
  let power : Nat := bits / Nat.pow 2 52 % Nat.pow 2 11
  let fraction : Nat := bits % Nat.pow 2 52
  let rest : Shape :=
    if power == 2047 then if fraction == 0 then .infinite else .undefined
    else if power == 0 then
      if fraction == 0 then .zero else .finite ⟨fraction, -1074, false⟩
    else .finite ⟨Nat.pow 2 52 + fraction, Int.ofNat power - 1075, fraction == 0 && power != 1⟩
  (isNegative, rest)

/-- The text of a floating-point number: its shortest decimal, `inf` or `nan`. -/
def floatText (x : Float) : String :=
  let (isNegative, rest) := shape x
  let sign := if isNegative then "-" else ""
  match rest with
  | .undefined => "nan"
  | .infinite => sign ++ "inf"
  | .zero => sign ++ "0.0"
  | .finite size => sign ++ String.ofList size.shortest.text

end ReleaseNotes.Number
