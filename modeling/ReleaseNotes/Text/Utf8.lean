/-!
# UTF-8

Text as octets and back. Encoding is one run of octets per character. Decoding
answers octet by octet what it could read: a character, or nothing for an octet
that begins no well-formed run, after which it goes on with the next octet.
Overlong runs, surrogates and code points past the last plane are not well
formed.
-/

namespace ReleaseNotes.Text

/-- The octets of a text. -/
def utf8 (cs : List Char) : List UInt8 :=
  cs.flatMap String.utf8EncodeChar

/-- The low six bits of a continuation octet, if it is one. -/
def continuation? (b : UInt8) : Option Nat :=
  if 0x80 ≤ b ∧ b < 0xC0 then some (b.toNat - 0x80) else none

/-- The character with a code point of at least `least`, if there is one. -/
def scalar? (least n : Nat) : Option Char :=
  if least ≤ n ∧ n.isValidChar then some (Char.ofNat n) else none

/-- The character written by two octets. -/
def pair? (a b : UInt8) : Option Char :=
  if 0xC0 ≤ a ∧ a < 0xE0 then do
    let x ← continuation? b
    scalar? 0x80 ((a.toNat - 0xC0) * 64 + x)
  else none

/-- The character written by three octets. -/
def triple? (a b c : UInt8) : Option Char :=
  if 0xE0 ≤ a ∧ a < 0xF0 then do
    let x ← continuation? b
    let y ← continuation? c
    scalar? 0x800 (((a.toNat - 0xE0) * 64 + x) * 64 + y)
  else none

/-- The character written by four octets. -/
def quadruple? (a b c d : UInt8) : Option Char :=
  if 0xF0 ≤ a ∧ a < 0xF8 then do
    let x ← continuation? b
    let y ← continuation? c
    let z ← continuation? d
    scalar? 0x10000 ((((a.toNat - 0xF0) * 64 + x) * 64 + y) * 64 + z)
  else none

/-- The readings of a list of octets: a character for each well-formed run, nothing
for an octet that begins none. -/
def readUtf8 : List UInt8 → List (Option Char)
  | [] => []
  | a :: rest =>
    if a < 0x80 then some (Char.ofNat a.toNat) :: readUtf8 rest
    else match rest with
      | [] => [none]
      | b :: rest₂ =>
        match pair? a b with
        | some ch => some ch :: readUtf8 rest₂
        | none =>
          match rest₂ with
          | [] => none :: readUtf8 [b]
          | c :: rest₃ =>
            match triple? a b c with
            | some ch => some ch :: readUtf8 rest₃
            | none =>
              match rest₃ with
              | [] => none :: readUtf8 [b, c]
              | d :: rest₄ =>
                match quadruple? a b c d with
                | some ch => some ch :: readUtf8 rest₄
                | none => none :: readUtf8 (b :: c :: d :: rest₄)
termination_by octets => octets.length

/-- The text written by a list of octets, if all of it is well formed. -/
def ofUtf8? (octets : List UInt8) : Option (List Char) :=
  (readUtf8 octets).mapM id

end ReleaseNotes.Text
