import ReleaseNotes.Data.Complaint
import ReleaseNotes.Data.Value
import ReleaseNotes.Number.Scientific
import ReleaseNotes.Number.Shortest
import ReleaseNotes.Text.Blank
import ReleaseNotes.Text.Decimal

/-!
# Reading fields of data

A field is read leniently: a number may be given as a text, an integer as a number
without a fraction, a truth value as one of a few words. Only a text must be a text.
-/

namespace ReleaseNotes.Data

/-! ### Texts -/

/-- A text. -/
def Value.asText : Value → Except Trouble String
  | .text s => .ok s
  | _ => .error .notText

/-- One of the listed texts, with what it stands for. -/
def Value.asOneOf {α : Type} (choices : List (String × α)) : Value → Except Trouble α
  | .text s =>
    match choices.find? fun c => c.1 == s with
    | some c => .ok c.2
    | none => .error .notListed
  | _ => .error .notListed

/-- Whether an underscore stands next to another one. -/
def hasDoubleUnderscore : List Char → Bool
  | '_' :: '_' :: _ => true
  | _ :: rest => hasDoubleUnderscore rest
  | [] => false

/-- A text without its underscores, none of which may stand at an end or next to another. -/
def dropUnderscores? (cs : List Char) : Option (List Char) :=
  if cs.head? == some '_' || cs.getLast? == some '_' || hasDoubleUnderscore cs then none
  else some (cs.filter (· != '_'))

/-! ### Integers -/

/-- A text that begins with a zero, read from after that zero on: what is left once the
zeros and underscores in front of the first other digit are gone. A zero before a point
is kept. -/
def dropZeros? (last : Char) : List Char → Option (List Char)
  | [] => some [last]
  | c :: rest =>
    if c == '0' || c == '_' then dropZeros? c rest
    else if c == '.' then some (last :: c :: rest)
    else if c.isDigit then some (c :: rest)
    else none

/-- The digits of an integer without needless zeros in front. -/
def dropLeadingZeros? : List Char → Option (List Char)
  | [] => none
  | c :: rest =>
    if c == '0' then dropZeros? '0' rest
    else if c.isDigit || c == '-' then some (c :: rest)
    else none

/-- A text without the plus sign that it may begin with; a minus sign must not follow. -/
def dropPlus? : List Char → Option (List Char)
  | '+' :: '-' :: _ => none
  | '+' :: rest => some rest
  | cs => some cs

/-- A text without a point and one or more zeros at its end. -/
def dropPointZeros (cs : List Char) : List Char :=
  match cs.dropWhile (· != '.') with
  | _ :: fraction =>
    if !fraction.isEmpty && fraction.all (· == '0') then cs.takeWhile (· != '.') else cs
  | [] => cs

/-- The integer written by digits alone, without needless zeros in front. -/
def plainInteger? (cs : List Char) : Option Int :=
  match Number.takeSign cs with
  | (isNegative, digits) =>
    if cs.head? == some '+' || digits.isEmpty || !digits.all Char.isDigit then none
    else if 1 < digits.length && digits.head? == some '0' then none
    else
      let size : Int := Text.ofDigits 10 (digits.filterMap Number.asciiDigit?)
      some (if isNegative then -size else size)

/-- The integer that a text is: a sign and ASCII digits, with white space around them,
single underscores between digits, and a point and zeros after them. -/
def integer? (cs : List Char) : Option Int := do
  let cs ← dropPlus? (Text.trimWhite cs)
  let cs ← dropLeadingZeros? cs
  let cs ← dropUnderscores? (dropPointZeros cs)
  plainInteger? cs

/-- The whole number that a binary number is, if it has no fraction. -/
def whole? (b : Number.Binary) : Option Nat :=
  if 0 ≤ b.exponent then some (b.mantissa * Nat.pow 2 b.exponent.toNat)
  else
    let unit := Nat.pow 2 b.exponent.natAbs
    if b.mantissa % unit == 0 then some (b.mantissa / unit) else none

/-- The least size of a number that is too large to be taken for an integer. -/
def wordLimit : Nat := Nat.pow 2 63

/-- The integer that a floating-point number is. -/
def floatInteger (x : Float) : Except Trouble Int :=
  match Number.shape x with
  | (_, .undefined) => .error .infinite
  | (_, .infinite) => .error .infinite
  | (_, .zero) => .ok 0
  | (isNegative, .finite size) =>
    match whole? size with
    | none => .error .fractional
    | some n =>
      if wordLimit ≤ n then .error .oversized else .ok (if isNegative then -(n : Int) else n)

/-- An integer. -/
def Value.asInteger : Value → Except Trouble Int
  | .int n => .ok n
  | .bool b => .ok (if b then 1 else 0)
  | .float x => floatInteger x
  | .text s =>
    if Text.digitLimit < s.utf8ByteSize then .error .oversized
    else match integer? s.toList with
      | some n => .ok n
      | none => .error .unreadableInteger
  | _ => .error .notInteger

/-! ### Numbers -/

/-- The floating-point number nearest to an integer, if it is finite. -/
def integerFloat (n : Int) : Except Trouble Float :=
  let x : Float := if n < 0 then -Float.ofNat n.natAbs else Float.ofNat n.natAbs
  if x.isInf then .error .notNumber else .ok x

/-- The floating-point number that a text is, with white space around it or single
underscores in it. -/
def textFloat? (cs : List Char) : Option Float :=
  match Number.float? (Text.trimWhite cs) with
  | some x => some x
  | none => (dropUnderscores? cs).bind Number.float?

/-- A floating-point number. -/
def Value.asFloat : Value → Except Trouble Float
  | .float x => .ok x
  | .int n => integerFloat n
  | .bool b => .ok (if b then 1 else 0)
  | .text s =>
    match textFloat? s.toList with
    | some x => .ok x
    | none => .error .unreadableNumber
  | _ => .error .notNumber

/-! ### Truth values -/

/-- The words for false, in lower case. -/
def offWords : List String := ["0", "off", "f", "false", "n", "no"]

/-- The words for true, in lower case. -/
def onWords : List String := ["1", "on", "t", "true", "y", "yes"]

/-- The truth value that an integer stands for. -/
def integerSwitch (n : Int) : Except Trouble Bool :=
  if n == 0 then .ok false
  else if n == 1 then .ok true
  else .error .unreadableSwitch

/-- A truth value. -/
def Value.asSwitch : Value → Except Trouble Bool
  | .bool b => .ok b
  | .int n =>
    if -(wordLimit : Int) ≤ n ∧ n < wordLimit then integerSwitch n else .error .notSwitch
  | .float x =>
    match floatInteger x with
    | .ok n => integerSwitch n
    | .error _ => .error .notSwitch
  | .text s =>
    let word := String.ofList (s.toList.map Char.toLower)
    if offWords.contains word then .ok false
    else if onWords.contains word then .ok true
    else .error .unreadableSwitch
  | _ => .error .notSwitch

/-! ### Tables and their fields -/

/-- A value that may be absent. -/
def Value.asOptional {α : Type} (read : Value → Except Trouble α) :
    Value → Except Trouble (Option α)
  | .null => .ok none
  | v => (read v).map some

/-- A field that must be there. -/
def Table.required {α : Type} (t : Table) (name : String) (read : Value → Except Trouble α) :
    Checked α :=
  .at name <| match t.get? name with
    | some v => read v
    | none => .error .missing

/-- A field with a value to take when it is not there. -/
def Table.defaulted {α : Type} (t : Table) (name : String) (default : α)
    (read : Value → Except Trouble α) : Checked α :=
  .at name <| match t.get? name with
    | some v => read v
    | none => .ok default

/-- A table inside of a table. One that is not there counts as empty. -/
def Table.part {α : Type} (t : Table) (name : String) (read : Table → Checked α) : Checked α :=
  .inside name <| match t.get? name with
    | none => read []
    | some (.table entries) => read entries
    | some _ => .error [⟨[], .notTable⟩]

end ReleaseNotes.Data
