/-!
# Characters of a document

Which characters a document may hold, and which of them may stand in a name.
Both classes are closed ranges of code points fixed by the standard of the
format, so each is a table and a test.
-/

namespace ReleaseNotes.Markup

/-- Whether a character may stand in a document: a tab, a line feed, a carriage
return, or a code point from the space upwards that is not a noncharacter of the
first plane. -/
def isLegal (c : Char) : Bool :=
  c == '\t' || c == '\n' || c == '\r' ||
    (0x20 ≤ c.toNat && c.toNat ≠ 0xFFFE && c.toNat ≠ 0xFFFF)

/-- Whether a text may stand in a document. -/
def isLegalText (s : String) : Bool :=
  s.toList.all isLegal

/-- Whether a character separates the parts of a tag: a space, a tab, a line feed or
a carriage return. -/
def isGap (c : Char) : Bool :=
  c == ' ' || c == '\t' || c == '\n' || c == '\r'

/-- The code points that may begin a name. -/
def nameStartRanges : List (Nat × Nat) :=
  [(0x3A, 0x3A), (0x41, 0x5A), (0x5F, 0x5F), (0x61, 0x7A), (0xC0, 0xD6), (0xD8, 0xF6),
   (0xF8, 0x2FF), (0x370, 0x37D), (0x37F, 0x1FFF), (0x200C, 0x200D), (0x2070, 0x218F),
   (0x2C00, 0x2FEF), (0x3001, 0xD7FF), (0xF900, 0xFDCF), (0xFDF0, 0xFFFD), (0x10000, 0xEFFFF)]

/-- The code points that may continue a name, those that may begin one apart. -/
def nameRestRanges : List (Nat × Nat) :=
  [(0x2D, 0x2E), (0x30, 0x39), (0xB7, 0xB7), (0x300, 0x36F), (0x203F, 0x2040)]

/-- Whether a character may begin a name. -/
def isNameStart (c : Char) : Bool :=
  nameStartRanges.any fun r => r.1 ≤ c.toNat && c.toNat ≤ r.2

/-- Whether a character may stand inside a name. -/
def isNameChar (c : Char) : Bool :=
  isNameStart c || nameRestRanges.any fun r => r.1 ≤ c.toNat && c.toNat ≤ r.2

end ReleaseNotes.Markup
