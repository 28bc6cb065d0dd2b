import ReleaseNotes.Number.Run
import ReleaseNotes.Text.Blank
import ReleaseNotes.Text.Case

/-!
# Hosts

The host that an address leads to: what stands between the two slashes and the next slash, question
mark or number sign, without a user in front and a service number behind, in lower case. A number of
a host that has colons stands in brackets. Text in front of the brackets, or between them and the
service number, is refused here, as strict readings of addresses do; lenient ones let some of it pass.
-/

namespace ReleaseNotes

/-- An address whose host makes no sense. -/
inductive HostFault where
  /-- Brackets do not match, or what is in them is no number of a host. -/
  | brackets
  /-- A character stands for others that divide an address. -/
  | disguised
  deriving DecidableEq, Repr

/-! ### Numbers of hosts -/

/-- Whether a text is a decimal number below 256 without a zero in front. -/
def isOctet (cs : List Char) : Bool :=
  !cs.isEmpty && cs.length ≤ 3 && cs.all Char.isDigit && Number.ofRun 10 cs ≤ 255 &&
    (cs.length == 1 || cs.head? != some '0')

/-- The parts of a text between the occurrences of a character. -/
def splitAt (c : Char) (cs : List Char) : List (List Char) :=
  cs.foldr
    (fun d parts =>
      if d == c then [] :: parts
      else match parts with
        | part :: rest => (d :: part) :: rest
        | [] => [[d]])
    [[]]

/-- Whether a text is a number of a host in four parts. -/
def isQuad (cs : List Char) : Bool :=
  let parts := splitAt '.' cs
  parts.length == 4 && parts.all isOctet

/-- Whether a text is a part of a number of a host in eight parts. -/
def isGroup (cs : List Char) : Bool :=
  !cs.isEmpty && cs.length ≤ 4 && cs.all fun c => (Number.asciiHex? c).isSome

/-- The parts of a number of a host, with four parts at the end counted as two groups. -/
def groups (cs : List Char) : Option (List (List Char)) :=
  let parts := splitAt ':' cs
  if parts.length < 3 then none
  else match parts.getLast? with
    | some last =>
      if last.contains '.' then
        if isQuad last then some (parts.dropLast ++ [['0'], ['0']]) else none
      else some parts
    | none => none

/-- Whether groups are those of a number of a host. Two colons side by side stand for at least one
group that is zero, once. -/
def areGroups (parts : List (List Char)) : Bool :=
  let inner := (parts.drop 1).dropLast
  let empty := inner.countP List.isEmpty
  if 9 < parts.length || 1 < empty then false
  else if empty == 0 then parts.length == 8 && parts.all isGroup
  else
    let high := (parts.takeWhile fun p => !p.isEmpty)
    let low := (parts.reverse.takeWhile fun p => !p.isEmpty)
    let startsEmpty := parts.head? == some []
    let endsEmpty := parts.getLast? == some []
    let index := (inner.takeWhile fun p => !p.isEmpty).length + 1
    let before := if startsEmpty then [] else high
    let after := if endsEmpty then [] else low
    !(startsEmpty && index != 1) && !(endsEmpty && index + 2 != parts.length) &&
      before.length + after.length < 8 && (before ++ after).all isGroup

/-- Whether a text is a number of a host in eight groups, with the name of a zone after a percent
sign. -/
def isGrouped (cs : List Char) : Bool :=
  let number := cs.takeWhile (· != '%')
  let zone := cs.drop number.length
  let fits := zone.isEmpty || (1 < zone.length && !(zone.drop 1).contains '%')
  fits && !cs.contains '/' && ((groups number).map areGroups).getD false

/-- Whether a text is a number of a host in a form still to come: a letter, a hexadecimal number, a
point and anything. -/
def isFuture (cs : List Char) : Bool :=
  let number := (cs.drop 1).takeWhile fun c => (Number.asciiHex? c).isSome
  match cs.drop (1 + number.length) with
  | '.' :: rest => !number.isEmpty && !rest.isEmpty && !rest.contains '\n'
  | _ => false

/-- Whether a text in brackets is a number of a host. -/
def isBracketed (cs : List Char) : Bool :=
  if cs.head? == some 'v' then isFuture cs else isGrouped cs

/-! ### The part with the host -/

/-- The characters that stand for others, one of which divides an address. -/
def disguised : List Char :=
  ['\u2047', '\u2048', '\u2049', '\u2100', '\u2101', '\u2105', '\u2106', '\u2a74', '\ufe13',
   '\ufe16', '\ufe55', '\ufe56', '\ufe5f', '\ufe6b', '\uff03', '\uff0f', '\uff1a', '\uff1f',
   '\uff20']

/-- Whether a character may stand in the scheme of an address. -/
def isSchemePart (c : Char) : Bool :=
  c.isAlphanum || c == '+' || c == '-' || c == '.'

/-- An address without its scheme. -/
def dropScheme (cs : List Char) : List Char :=
  let scheme := cs.takeWhile (· != ':')
  match cs.drop scheme.length with
  | ':' :: rest =>
    if ((scheme.head?.map Char.isAlpha).getD false) && scheme.all isSchemePart then rest else cs
  | _ => cs

/-- Whether a character comes before everything that can be seen. -/
def isLow (c : Char) : Bool :=
  c.toNat ≤ 0x20

/-- The part of an address that has the host in it. -/
def hostPart (address : String) : List Char :=
  let cs := (address.toList.dropWhile isLow).filter fun c => c != '\t' && c != '\r' && c != '\n'
  match dropScheme cs with
  | '/' :: '/' :: rest => rest.takeWhile fun c => c != '/' && c != '?' && c != '#'
  | _ => []

/-- Whether the brackets in a part with a host are right. -/
def bracketsFit (cs : List Char) : Bool :=
  if cs.contains '[' != cs.contains ']' then false
  else if !cs.contains '[' then true
  else
    match Text.afterLast '@' cs with
    | '[' :: rest =>
      let inner := rest.takeWhile (· != ']')
      let service := rest.drop (inner.length + 1)
      isBracketed inner && (service.isEmpty || service.head? == some ':')
    | rest => !rest.contains '[' && isBracketed (rest.takeWhile (· != ':'))

/-- A text in lower case up to a percent sign. -/
def lowerHost (cs : List Char) : String :=
  let name := cs.takeWhile (· != '%')
  String.ofList (Text.lower name ++ cs.drop name.length)

/-- The host that an address leads to, if it names one. -/
def host? (address : String) : Except HostFault (Option String) :=
  let part := hostPart address
  if !bracketsFit part then .error .brackets
  else if part.any disguised.contains then .error .disguised
  else
    let name := match Text.afterLast '@' part with
      | '[' :: rest => rest.takeWhile (· != ']')
      | rest => rest.takeWhile (· != ':')
    .ok (if name.isEmpty then none else some (lowerHost name))

end ReleaseNotes
