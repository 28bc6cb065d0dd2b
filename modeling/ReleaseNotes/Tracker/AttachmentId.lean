import ReleaseNotes.Input
import ReleaseNotes.Text.Blank
import ReleaseNotes.Text.Decimal
import ReleaseNotes.Text.Digit

/-!
# Identifiers of attachments

An identifier is an integer in decimal or hexadecimal, with blanks around it, a sign
in front and digits of any script. A hexadecimal one is marked by `0x`, `0X` or `#`,
and the digits after that mark may be marked once more by a zero and an `x`. There is
a limit to the number of decimal digits and none to that of hexadecimal ones.
-/

namespace ReleaseNotes.Tracker

/-- The sign at the start of an identifier, negative or not, and what follows it. -/
def splitSign : List Char → Bool × List Char
  | '-' :: rest => (true, rest)
  | '+' :: rest => (false, rest)
  | cs => (false, cs)

/-- The digits after a mark for hexadecimal, or nothing if there is no mark. -/
def afterHexMark? : List Char → Option (List Char)
  | '0' :: 'x' :: rest => some rest
  | '0' :: 'X' :: rest => some rest
  | '#' :: rest => some rest
  | _ => none

/-- Hexadecimal digits without the mark of a zero and an `x` that they may begin with. -/
def dropHexMark (cs : List Char) : List Char :=
  match cs with
  | z :: 'x' :: rest => if Text.decimalValue? z == some 0 then rest else cs
  | z :: 'X' :: rest => if Text.decimalValue? z == some 0 then rest else cs
  | _ => cs

/-- The value of one or more hexadecimal digits. -/
def hexNumber? (cs : List Char) : Option Nat :=
  match Text.digits? Text.hexValue? (dropHexMark cs) with
  | none => none
  | some [] => none
  | some ds => some (Text.ofDigits 16 ds)

/-- The value of one or more decimal digits, up to the limit. -/
def decimalNumber? (cs : List Char) : Option Nat :=
  match Text.digits? Text.decimalValue? cs with
  | none => none
  | some [] => none
  | some ds => if ds.length ≤ Text.digitLimit then some (Text.ofDigits 10 ds) else none

/-- The value of the digits of an identifier, with their mark. -/
def magnitude? (cs : List Char) : Option Nat :=
  match afterHexMark? cs with
  | some digits => hexNumber? digits
  | none => decimalNumber? cs

/-- The identifier that a text is, if it is one. -/
def attachmentId? (cs : List Char) : Option Int :=
  let (isNegative, digits) := splitSign (Text.trim cs)
  (magnitude? digits).map fun n => if isNegative then -(n : Int) else n

/-- The identifier that a text must be. -/
def readAttachmentId (text : String) : Except InputFault Int :=
  match attachmentId? text.toList with
  | some id => .ok id
  | none => .error (.badAttachmentId text)

end ReleaseNotes.Tracker
