import ReleaseNotes.Number.Run
import ReleaseNotes.Result

/-!
# Texts and keys of TOML

A text stands in double quotes, with escapes, or in single quotes, as it is. In three quotes
it may go over several lines. A key is a bare word or a text on one line; several keys with
points between them lead into tables inside of tables.
-/

namespace ReleaseNotes.Data.Toml

/-- What is wrong with a TOML document. -/
inductive Fault where
  /-- The document breaks the rules of the format. -/
  | malformed (reason : String)
  /-- An integer has more digits than one may have. -/
  | oversized
  /-- Values stand within values more deeply than they can be followed. -/
  | tooDeep
  deriving DecidableEq, Repr

/-- The wording of a fault. -/
def Fault.message : Fault → String
  | .malformed reason => reason
  | .oversized => "Exceeds the limit for integer string conversion"
  | .tooDeep => "Nested too deeply"

/-- Whether a character is white space inside of a line. -/
def isSpace (c : Char) : Bool :=
  c == ' ' || c == '\t'

/-- Whether a character is white space or ends a line. -/
def isGap (c : Char) : Bool :=
  isSpace c || c == '\n'

/-- Whether a character may stand nowhere as it is. -/
def isControl (c : Char) : Bool :=
  c != '\t' && (c.toNat < 0x20 || c.toNat == 0x7F)

/-! ### Texts -/

/-- The characters that a letter after a backslash stands for. -/
def escapes : List (Char × Char) :=
  [('b', '\x08'), ('t', '\t'), ('n', '\n'), ('f', '\x0c'), ('r', '\r'), ('e', '\x1b'),
   ('\x22', '\x22'), ('\\', '\\')]

/-- How many hexadecimal digits follow a letter after a backslash. -/
def hexWidth? (c : Char) : Option Nat :=
  if c == 'x' then some 2 else if c == 'u' then some 4 else if c == 'U' then some 8 else none

/-- The character with a code in hexadecimal digits, of which there must be as many as
`width` says. -/
def hexEscape? (width : Nat) (cs : List Char) : Option Char := do
  let digits ← (cs.take width).mapM Number.asciiHex?
  let code := Text.ofDigits 16 digits
  if digits.length == width && code.isValidChar then some (Char.ofNat code) else none

/-- What follows a backslash at the end of a line: the white space there and on the next lines is
left out. -/
def skipLineEnd? (cs : List Char) : Option (List Char) :=
  match cs.dropWhile isSpace with
  | [] => some []
  | '\n' :: rest => some (rest.dropWhile isGap)
  | _ => none

/-- What a backslash and the character after it stand for, and what follows. -/
def readEscape? (isLong : Bool) (c : Char) (rest : List Char) : Option (List Char × List Char) :=
  if isLong && isGap c then (skipLineEnd? (c :: rest)).map fun after => ([], after)
  else
    match escapes.lookup c, hexWidth? c with
    | some found, _ => some ([found], rest)
    | none, some width => (hexEscape? width rest).map fun found => ([found], rest.drop width)
    | none, none => none

theorem length_skipLineEnd? {cs after : List Char} (h : skipLineEnd? cs = some after) :
    after.length ≤ cs.length := by
  have hspace := (List.dropWhile_suffix (l := cs) isSpace).length_le
  rw [skipLineEnd?] at h
  split at h
  · cases h
    exact Nat.zero_le _
  · next rest hrest =>
    cases h
    have := (List.dropWhile_suffix (l := rest) isGap).length_le
    grind
  · cases h

theorem length_readEscape? {isLong : Bool} {c : Char} {rest found after : List Char}
    (h : readEscape? isLong c rest = some (found, after)) : after.length ≤ rest.length + 1 := by
  rw [readEscape?] at h
  split at h
  · obtain ⟨_, hline, he⟩ := Option.map_eq_some_iff.mp h
    cases he
    exact length_skipLineEnd? hline
  · split at h <;> grind [Option.map_eq_some_iff]

/-- The fault of a text without an end. -/
def unterminated : Fault := .malformed "Unterminated string"

/-- The fault of a backslash that means nothing. -/
def badEscape : Fault := .malformed "Unescaped '\\' in a string"

/-- The fault of a character that may not stand where it stands. -/
def illegal : Fault := .malformed "Found an invalid character"

/-- The text from after its opening double quotes on, and what follows its closing ones. -/
def readEscaped (isLong : Bool) (cs : List Char) : Except Fault (List Char × List Char) :=
  match cs with
  | [] => .error unterminated
  | '\\' :: c :: rest =>
    match escape : readEscape? isLong c rest with
    | none => .error badEscape
    | some (found, after) =>
      have : after.length ≤ rest.length + 1 := length_readEscape? escape
      (readEscaped isLong after).map fun (s, after) => (found ++ s, after)
  | c :: rest =>
    if c == '\x22' && !isLong then .ok ([], rest)
    else if c == '\x22' && rest.take 2 == ['\x22', '\x22'] then .ok ([], rest.drop 2)
    else if isControl c && !(isLong && c == '\n') then .error illegal
    else (readEscaped isLong rest).map fun (s, after) => (c :: s, after)
termination_by cs.length

theorem length_readEscaped {isLong : Bool} {cs s after : List Char} (h : readEscaped isLong cs = .ok (s, after)) :
    after.length < cs.length := by
  fun_induction readEscaped isLong cs generalizing s <;> grind

/-- The text from after its opening single quotes on, and what follows its closing ones. -/
def readVerbatim (isLong : Bool) : List Char → Except Fault (List Char × List Char)
  | [] => .error unterminated
  | c :: rest =>
    if c == '\x27' && !isLong then .ok ([], rest)
    else if c == '\x27' && rest.take 2 == ['\x27', '\x27'] then .ok ([], rest.drop 2)
    else if isControl c && !(isLong && c == '\n') then .error illegal
    else (readVerbatim isLong rest).map fun (s, after) => (c :: s, after)

theorem length_readVerbatim {isLong : Bool} {cs s after : List Char} (h : readVerbatim isLong cs = .ok (s, after)) :
    after.length < cs.length := by
  fun_induction readVerbatim isLong cs generalizing s <;> grind

/-- The text from after its opening quotes on, and what follows its closing ones. -/
def readInside (quote : Char) (isLong : Bool) (cs : List Char) :
    Except Fault (List Char × List Char) :=
  if quote == '\x22' then readEscaped isLong cs else readVerbatim isLong cs

theorem length_readInside {quote : Char} {isLong : Bool} {cs s after : List Char}
    (h : readInside quote isLong cs = .ok (s, after)) : after.length < cs.length := by
  rw [readInside] at h
  split at h
  · exact length_readEscaped h
  · exact length_readVerbatim h

/-- One or two quotes that stand before the three closing quotes of a text belong to it. -/
def takeQuotes (quote : Char) (s : List Char) (rest : List Char) : List Char × List Char :=
  let extra := (rest.take 2).takeWhile (· == quote)
  (s ++ extra, rest.drop extra.length)

/-- A text over several lines from after its opening quotes on. A line end there does not
count. -/
def readLong (quote : Char) (cs : List Char) : Except Fault (String × List Char) :=
  let cs := match cs with
    | '\n' :: rest => rest
    | cs => cs
  (readInside quote true cs).map fun (s, rest) =>
    let (s, rest) := takeQuotes quote s rest
    (String.ofList s, rest)

/-- A text from after its first quote on. -/
def readText (quote : Char) (cs : List Char) : Except Fault (String × List Char) :=
  if cs.take 2 == [quote, quote] then readLong quote (cs.drop 2)
  else (readInside quote false cs).map fun (s, rest) => (String.ofList s, rest)

theorem length_readLong {quote : Char} {cs after : List Char} {s : String} (h : readLong quote cs = .ok (s, after)) :
    after.length < cs.length := by
  obtain ⟨⟨inner, rest⟩, hinside, he⟩ := map_eq_ok_iff.mp h
  have := length_readInside hinside
  cases he
  simp only [List.length_drop]
  split at this <;> grind

theorem length_readText {quote : Char} {cs after : List Char} {s : String} (h : readText quote cs = .ok (s, after)) :
    after.length < cs.length := by
  rw [readText] at h
  split at h
  · have := length_readLong h
    rw [List.length_drop] at this
    omega
  · obtain ⟨⟨inner, rest⟩, hinside, he⟩ := map_eq_ok_iff.mp h
    cases he
    exact length_readInside hinside

/-! ### Keys -/

/-- Whether a character may stand in a key without quotes. -/
def isBare (c : Char) : Bool :=
  c.isAlphanum || c == '-' || c == '_'

/-- Whether a character may begin a key. -/
def beginsKey (c : Char) : Bool :=
  isBare c || c == '\x22' || c == '\x27'

/-- One key, and what follows it. -/
def readKeyPart : List Char → Except Fault (String × List Char)
  | [] => .error (.malformed "Invalid initial character for a key part")
  | c :: rest =>
    if isBare c then
      .ok (String.ofList ((c :: rest).takeWhile isBare), (c :: rest).dropWhile isBare)
    else if beginsKey c then
      (readInside c false rest).map fun (s, rest) => (String.ofList s, rest)
    else .error (.malformed "Invalid initial character for a key part")

theorem length_readKeyPart {cs after : List Char} {part : String} (h : readKeyPart cs = .ok (part, after)) :
    after.length < cs.length := by
  rw [readKeyPart.eq_def] at h
  split at h
  · cases h
  · next c rest =>
    split at h
    · next hbare =>
      cases h
      rw [List.dropWhile_cons_of_pos hbare]
      exact Nat.lt_succ_of_le (List.dropWhile_suffix _).length_le
    · split at h
      · obtain ⟨⟨s, rest⟩, hinside, he⟩ := map_eq_ok_iff.mp h
        cases he
        exact Nat.lt_succ_of_lt (length_readInside hinside)
      · cases h

/-- Keys with points between them, and what follows them. -/
def readKey (cs : List Char) : Except Fault (List String × List Char) :=
  match first : readKeyPart cs with
  | .error fault => .error fault
  | .ok (part, rest) =>
    match point : rest.dropWhile isSpace with
    | '.' :: more =>
      have : (more.dropWhile isSpace).length < cs.length := by
        have := length_readKeyPart first
        have := (List.dropWhile_suffix (l := rest) isSpace).length_le
        have := (List.dropWhile_suffix (l := more) isSpace).length_le
        grind
      (readKey (more.dropWhile isSpace)).map fun (parts, after) => (part :: parts, after)
    | rest => .ok ([part], rest)
termination_by cs.length

theorem length_readKey {cs after : List Char} {parts : List String} (h : readKey cs = .ok (parts, after)) :
    after.length < cs.length := by
  fun_induction readKey cs generalizing parts with
  | case1 => cases h
  | case2 cs part rest first more point shorter ih =>
    obtain ⟨⟨others, rest⟩, hmore, he⟩ := map_eq_ok_iff.mp h
    cases he
    exact Nat.lt_trans (ih hmore) shorter
  | case3 cs part rest first =>
    cases h
    have := length_readKeyPart first
    have := (List.dropWhile_suffix (l := rest) isSpace).length_le
    omega

end ReleaseNotes.Data.Toml
