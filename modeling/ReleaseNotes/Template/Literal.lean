import ReleaseNotes.Number.Run
import ReleaseNotes.Template.Fault
import ReleaseNotes.Text.Decimal
import ReleaseNotes.Text.Quoted

/-!
# Literals of templates

Texts in quotes with their escapes, and numbers. An integer is decimal without a zero in
front, or in base two, eight or sixteen after a mark; a number with a point or an exponent
is a floating-point number. An underscore may stand between two digits.
-/

namespace ReleaseNotes.Template

/-! ### Texts -/

/-- The characters that a letter after a backslash stands for. -/
def simpleEscapes : List (Char × Char) :=
  [('\\', '\\'), ('\x27', '\x27'), ('\x22', '\x22'), ('a', '\x07'), ('b', '\x08'), ('f', '\x0c'),
   ('n', '\n'), ('r', '\r'), ('t', '\t'), ('v', '\x0b')]

/-- How many hexadecimal digits follow a letter after a backslash. -/
def hexWidth? (c : Char) : Option Nat :=
  if c == 'x' then some 2 else if c == 'u' then some 4 else if c == 'U' then some 8 else none

/-- The character with a code in hexadecimal digits, of which there must be as many as
`width` says. -/
def hexEscape? (width : Nat) (cs : List Char) : Option Char := do
  let digits := cs.take width
  if digits.length < width then none
  else do
    let values ← digits.mapM Number.asciiHex?
    let code := Text.ofDigits 16 values
    if code.isValidChar then some (Char.ofNat code) else none

/-- The character after a backslash and what follows it. A character that means nothing there
stands for itself and keeps the backslash; the end of a line is left out with it. -/
def readEscape (c : Char) (rest : List Char) : Option (List Char × List Char) :=
  match simpleEscapes.find? (·.1 == c), hexWidth? c, Number.octal? c with
  | some e, _, _ => some ([e.2], rest)
  | none, some width, _ => (hexEscape? width rest).map fun found => ([found], rest.drop width)
  | none, none, some first =>
    let more := (rest.take 2).takeWhile fun d => (Number.octal? d).isSome
    let code := Text.ofDigits 8 (first :: more.filterMap Number.octal?)
    some ([Char.ofNat code], rest.drop more.length)
  | none, none, none =>
    if c == '\n' then some ([], rest)
    else if c == 'N' then none
    else if c.toNat < 0x80 then some (['\\', c], rest)
    else some (Text.escapeCode c, rest)

theorem length_readEscape {c : Char} {rest found after : List Char}
    (h : readEscape c rest = some (found, after)) : after.length ≤ rest.length := by
  simp only [readEscape] at h
  split at h <;> grind [Option.map_eq_some_iff]

/-- A quoted text without its quotes and with its escapes resolved. -/
def unescape (cs : List Char) : Except Fault (List Char) :=
  match cs with
  | [] => .ok []
  | '\\' :: c :: rest =>
    match escape : readEscape c rest with
    | none => .error (.malformed "bad escape")
    | some (found, after) =>
      have : after.length ≤ rest.length := length_readEscape escape
      (unescape after).map (found ++ ·)
  | c :: rest => (unescape rest).map (c :: ·)
termination_by cs.length

/-- The inside of a quoted text, from after its opening quote on, and what follows its closing
quote. -/
def readQuoted (quote : Char) : List Char → Option (List Char × List Char)
  | [] => none
  | '\\' :: c :: rest => (readQuoted quote rest).map fun (inner, after) => ('\\' :: c :: inner, after)
  | c :: rest =>
    if c == quote then some ([], rest)
    else if c == '\\' then none
    else (readQuoted quote rest).map fun (inner, after) => (c :: inner, after)

theorem length_readQuoted {quote : Char} {cs inner after : List Char}
    (h : readQuoted quote cs = some (inner, after)) : after.length < cs.length := by
  fun_induction readQuoted quote cs generalizing inner <;> grind [Option.map_eq_some_iff]

/-! ### Numbers -/

/-- A floating-point number at the start of a text, and what follows it. -/
def readFloat? (cs : List Char) : Option (Float × List Char) :=
  match Number.takeRun Char.isDigit cs with
  | ([], _) => none
  | (whole, after) =>
    let (fraction, rest) := Number.takeFraction after
    match Number.takeExponent? rest with
    | some (e, rest) => some (Number.floatOf false whole fraction e, rest)
    | none => if fraction.isEmpty then none else some (Number.floatOf false whole fraction 0, rest)

theorem length_readFloat? {cs rest : List Char} {x : Float} (h : readFloat? cs = some (x, rest)) :
    rest.length < cs.length := by
  have hrun := Number.length_takeRun Char.isDigit cs
  simp only [readFloat?] at h
  split at h
  · cases h
  · next whole after hwhole hfound =>
    have hpart := Number.length_takeFraction after
    have hsome : 0 < whole.length := List.length_pos_iff.mpr hwhole
    rw [hfound] at hrun
    dsimp only at hrun
    split at h
    · next he =>
      have := Number.length_takeExponent? he
      grind
    · grind

/-- The mark of a base other than ten: the letter after a zero, and whether a character is a digit
of the base. -/
def baseOf? (c : Char) : Option (Nat × (Char → Bool)) :=
  if c == 'b' || c == 'B' then some (2, fun d => d == '0' || d == '1')
  else if c == 'o' || c == 'O' then some (8, fun d => (Number.octal? d).isSome)
  else if c == 'x' || c == 'X' then some (16, fun d => (Number.asciiHex? d).isSome)
  else none

/-- An integer after the mark of its base, and what follows it. -/
def readMarked? : List Char → Option (Nat × List Char)
  | '0' :: c :: rest => do
    let (base, isDigit) ← baseOf? c
    match Number.takeMoreDigits isDigit rest with
    | ([], _) => none
    | (run, after) => some (Text.ofDigits base (run.filterMap Number.asciiHex?), after)
  | _ => none

theorem length_readMarked? {cs rest : List Char} {n : Nat} (h : readMarked? cs = some (n, rest)) :
    rest.length < cs.length := by
  rw [readMarked?.eq_def] at h
  split at h
  · next c more =>
    obtain ⟨⟨base, isDigit⟩, -, h⟩ := Option.bind_eq_some_iff.mp h
    have := Number.length_takeMoreDigits isDigit more
    grind
  · cases h

/-- An integer at the start of a text, and what follows it. A decimal one has a limited number of
digits. -/
def readInteger? (cs : List Char) : Option (Except Fault Nat × List Char) :=
  match readMarked? cs with
  | some (n, rest) => some (.ok n, rest)
  | none =>
    let isDigit := if cs.head? == some '0' then (· == '0') else Char.isDigit
    match Number.takeRun isDigit cs with
    | ([], _) => none
    | (run, rest) =>
      if Text.digitLimit < run.length then some (.error .unfit, rest)
      else some (.ok (Text.ofDigits 10 (run.filterMap Number.asciiDigit?)), rest)

theorem length_readInteger? {cs rest : List Char} {made : Except Fault Nat}
    (h : readInteger? cs = some (made, rest)) : rest.length < cs.length := by
  simp only [readInteger?] at h
  split at h
  · next hmarked =>
    cases h
    exact length_readMarked? hmarked
  · split at h
    · cases h
    · next run after hrun hfound =>
      have hlength := Number.length_takeRun (if cs.head? == some '0' then (· == '0') else Char.isDigit) cs
      have hsome : 0 < run.length := List.length_pos_iff.mpr hrun
      rw [hfound] at hlength
      grind

end ReleaseNotes.Template
