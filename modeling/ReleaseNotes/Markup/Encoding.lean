import ReleaseNotes.Text.Line
import ReleaseNotes.Text.Utf8
import ReleaseNotes.Markup.Token

/-!
# Encodings

From the octets of a document to its characters. A mark at the start decides the
encoding; without one the document's own declaration does, and a document that
declares none is UTF-8. Line ends become line feeds here, once and for all.

An octet that cannot be read leaves a replacement character behind and marks the
text as damaged, so that the rest of the document can still be looked at.
-/

namespace ReleaseNotes.Markup

/-- The encodings that a document may be in. -/
inductive Encoding where
  /-- One to four octets for a character. -/
  | utf8
  /-- Two or four octets for a character, the higher octet of a unit first or last. -/
  | utf16 (highFirst : Bool)
  /-- One octet for each of the first 256 characters. -/
  | latin1
  /-- One octet for each of the first 128 characters. -/
  | ascii
  /-- As `latin1`, with typographic characters in place of the later controls. -/
  | windows1252
  deriving DecidableEq, Repr

/-- The characters that `windows1252` has in place of the code points from 0x80 to 0x9F;
zero marks an octet that stands for nothing. -/
def windowsCodes : List Nat :=
  [0x20AC, 0, 0x201A, 0x0192, 0x201E, 0x2026, 0x2020, 0x2021, 0x02C6, 0x2030, 0x0160, 0x2039,
   0x0152, 0, 0x017D, 0, 0, 0x2018, 0x2019, 0x201C, 0x201D, 0x2022, 0x2013, 0x2014, 0x02DC,
   0x2122, 0x0161, 0x203A, 0x0153, 0, 0x017E, 0x0178]

/-- What an octet stands for in `windows1252`. -/
def readWindows (b : UInt8) : Option Char :=
  if 0x80 ≤ b ∧ b < 0xA0 then
    match windowsCodes[b.toNat - 0x80]? with
    | some 0 => none
    | some n => some (Char.ofNat n)
    | none => none
  else some (Char.ofNat b.toNat)

/-- The units of sixteen bits that octets make; an octet left over is no unit. -/
def units (highFirst : Bool) : List UInt8 → List (Option Nat)
  | a :: b :: rest =>
    some (if highFirst then a.toNat * 256 + b.toNat else b.toNat * 256 + a.toNat) ::
      units highFirst rest
  | [_] => [none]
  | [] => []

/-- The characters that units of sixteen bits make. -/
def readUnits : List (Option Nat) → List (Option Char)
  | some a :: some b :: rest =>
    if 0xD800 ≤ a ∧ a < 0xDC00 then
      if 0xDC00 ≤ b ∧ b < 0xE000 then
        some (Char.ofNat (0x10000 + (a - 0xD800) * 0x400 + (b - 0xDC00))) :: readUnits rest
      else none :: readUnits (some b :: rest)
    else Text.scalar? 0 a :: readUnits (some b :: rest)
  | some a :: rest => Text.scalar? 0 a :: readUnits rest
  | none :: rest => none :: readUnits rest
  | [] => []

/-- The readings of octets in an encoding. -/
def Encoding.read (e : Encoding) (octets : List UInt8) : List (Option Char) :=
  match e with
  | .utf8 => Text.readUtf8 octets
  | .utf16 highFirst => readUnits (units highFirst octets)
  | .latin1 => octets.map fun b => some (Char.ofNat b.toNat)
  | .ascii => octets.map fun b => if b < 0x80 then some (Char.ofNat b.toNat) else none
  | .windows1252 => octets.map readWindows

/-- The encoding with a name, in any case. Names of UTF-16 are left to the mark at the start, and other
encodings, such as those with one octet for the letters of some languages, are unknown here. -/
def Encoding.named? (name : String) : Option Encoding :=
  let key := name.map Char.toLower
  if ["utf-8", "utf8"].contains key then some .utf8
  else if ["iso-8859-1", "iso_8859-1", "iso-latin-1", "latin1", "l1"].contains key then some .latin1
  else if ["us-ascii", "ascii"].contains key then some .ascii
  else if ["windows-1252", "cp1252", "cp-1252"].contains key then some .windows1252
  else none

/-! ### The declaration at the start -/

/-- What a document says of itself before anything else. -/
structure Declaration where
  /-- The name of the encoding. -/
  encoding? : Option String
  /-- Whether it says that nothing kept elsewhere matters. -/
  isStandalone : Bool
  deriving Repr

/-- The declaration of a document that has none. -/
def Declaration.absent : Declaration :=
  ⟨none, false⟩

/-- An equals sign and a quoted text. -/
def readSetting (cs : List Char) : Except Fault (List Char × List Char) := do
  let rest ← needMark "=" (skipGap cs)
  match skipGap rest with
  | quote :: rest =>
    if quote == '\x22' || quote == '\x27' then readUntil (String.singleton quote) rest
    else .error (.expected "a quoted text")
  | [] => .error (.expected "a quoted text")

/-- Whether a text is a version that can be read: `1.` and digits. -/
def isVersion : List Char → Bool
  | '1' :: '.' :: digits => digits.all Char.isDigit
  | _ => false

/-- Whether a text has the form of an encoding's name. -/
def isEncodingName : List Char → Bool
  | c :: rest => c.isAlpha && rest.all fun d => d.isAlphanum || d == '.' || d == '_' || d == '-'
  | [] => false

/-- The setting with this keyword after a gap, if it stands here. -/
def readSetting? (keyword : String) (cs : List Char) :
    Except Fault (Option (List Char) × List Char) :=
  let inner := skipGap cs
  if keyword.toList.isPrefixOf inner then
    if cs.head?.any isGap then do
      let (value, rest) ← readSetting (inner.drop keyword.length)
      .ok (some value, rest)
    else .error (.expected "a gap")
  else .ok (none, cs)

/-- The declaration at the start of a text, if there is one, and what follows it. -/
def readDeclaration (cs : List Char) : Except Fault (Declaration × List Char) :=
  match cs with
  | '<' :: '?' :: 'x' :: 'm' :: 'l' :: c :: _ =>
    if isGap c then do
      let (version?, rest) ← readSetting? "version" (cs.drop 5)
      if !(version?.map isVersion).getD false then .error (.expected "a version")
      else
        let (encoding?, rest) ← readSetting? "encoding" rest
        if !(encoding?.map isEncodingName).getD true then .error (.expected "an encoding")
        else
          let (alone?, rest) ← readSetting? "standalone" rest
          if alone?.any fun s => s != "yes".toList && s != "no".toList then
            .error (.expected "yes or no")
          else
            let rest ← needMark "?>" (skipGap rest)
            .ok (⟨encoding?.map String.ofList, alone? == some "yes".toList⟩, rest)
    else .ok (.absent, cs)
  | _ => .ok (.absent, cs)

/-! ### The characters of a document -/

/-- The encoding of a document and the octets of its text. -/
def Encoding.detect (octets : List UInt8) : Except Fault (Encoding × List UInt8) :=
  match octets with
  | 0xEF :: 0xBB :: 0xBF :: rest => .ok (.utf8, rest)
  | 0xFE :: 0xFF :: rest => .ok (.utf16 true, rest)
  | 0xFF :: 0xFE :: rest => .ok (.utf16 false, rest)
  | 0x00 :: 0x3C :: 0x00 :: 0x3F :: _ => .ok (.utf16 true, octets)
  | 0x3C :: 0x00 :: 0x3F :: 0x00 :: _ => .ok (.utf16 false, octets)
  | _ =>
    let plain := octets.map fun b => Char.ofNat b.toNat
    match readDeclaration plain with
    | .ok (⟨some name, _⟩, _) =>
      match Encoding.named? name with
      | some e => .ok (e, octets)
      | none => .error (.unknownEncoding name)
    | _ => .ok (.utf8, octets)

/-- The characters of a document and whether some octet could not be read. -/
def decode (octets : List UInt8) : Except Fault (List Char × Bool) := do
  let (e, octets) ← Encoding.detect octets
  let readings := e.read octets
  .ok (Text.unifyLines (readings.map (·.getD '\uFFFD')), readings.any Option.isNone)

end ReleaseNotes.Markup
