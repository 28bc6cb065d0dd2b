import ReleaseNotes.Markup.Fault
import ReleaseNotes.Markup.Node
import ReleaseNotes.Result

/-!
# Tokens

The pieces that a document is written in: tags, runs of text, comments,
processing instructions, references and the document type. Reading them needs no
memory of what went before, so it is one pass over the characters
(`tokens`); whether the tags match and the names are declared is for a later
pass to say.

A step that reads a token answers the token and the characters that follow it.
Every step takes at least one character, and the pass goes on only if it did.
-/

namespace ReleaseNotes.Markup

/-- An entity that a document type declares. -/
inductive Entity where
  /-- An entity that stands for the given characters. -/
  | text (value : List Char)
  /-- An entity kept elsewhere; it may be one that is not text. -/
  | elsewhere (isText : Bool)
  deriving Repr

/-- What a document type declares. -/
structure Doctype where
  /-- The identifiers of the part kept elsewhere, if there is one: its public name, which
  it may lack, and its address. -/
  outside? : Option (Option String × String)
  /-- Whether the declarations refer to a parameter entity. -/
  refersOutside : Bool
  /-- The general entities, the first declaration of each name first. -/
  entities : List (String × Entity)
  /-- The parameter entities, likewise. -/
  parameters : List (String × Entity)
  deriving Repr

/-- The document type of a document that has none. -/
def Doctype.absent : Doctype :=
  ⟨none, false, [], []⟩

/-- The declaration of a general entity. -/
def Doctype.entity? (d : Doctype) (name : String) : Option Entity :=
  (d.entities.find? (·.1 == name)).map Prod.snd

/-- A piece of a document. -/
inductive Token where
  /-- The start tag of an element: its name and attributes as written, and whether the
  element ends there. -/
  | opening (name : String) (attributes : List (String × List Piece)) (closed : Bool)
  /-- The end tag of an element. -/
  | closing (name : String)
  /-- A run of characters, and whether each of them stands for itself: none was written by
  a reference or in a literal section. -/
  | chars (s : String) (asIs : Bool)
  /-- A reference to an entity that is not predefined. -/
  | reference (name : String)
  /-- A comment. -/
  | comment (s : String)
  /-- A processing instruction. -/
  | instruction (target data : String)
  /-- A document type. -/
  | doctype (d : Doctype)
  deriving Repr

/-! ### Names, gaps and marks

Every reader says what follows the part that it read. Beside it stands how much shorter that is.
-/

theorem length_dropWhile_le (p : Char → Bool) (cs : List Char) :
    (cs.dropWhile p).length ≤ cs.length :=
  (List.dropWhile_suffix p).length_le

/-- The name at the start of a text, and what follows it. -/
def takeName? (cs : List Char) : Option (String × List Char) :=
  match cs with
  | c :: _ =>
    if isNameStart c then
      some (String.ofList (cs.takeWhile isNameChar), cs.dropWhile isNameChar)
    else none
  | [] => none

/-- The name that must stand here. -/
def readName (cs : List Char) : Except Fault (String × List Char) :=
  match takeName? cs with
  | some found => .ok found
  | none => .error (.expected "a name")

theorem isNameChar_of_isNameStart {c : Char} (h : isNameStart c) : isNameChar c := by
  simp [isNameChar, h]

theorem length_readName {cs rest : List Char} {name : String}
    (h : readName cs = .ok (name, rest)) : rest.length < cs.length := by
  match cs with
  | [] => simp [readName, takeName?] at h
  | c :: more =>
    by_cases start : isNameStart c
    · simp [readName, takeName?, start, isNameChar_of_isNameStart start] at h
      have := length_dropWhile_le isNameChar more
      simp [← h.2]
      omega
    · simp [readName, takeName?, start] at h

/-- A text without the gap at its start. -/
def skipGap (cs : List Char) : List Char :=
  cs.dropWhile isGap

theorem length_skipGap (cs : List Char) : (skipGap cs).length ≤ cs.length :=
  length_dropWhile_le isGap cs

/-- A text without the gap that must stand at its start. -/
def needGap (cs : List Char) : Except Fault (List Char) :=
  match cs with
  | c :: rest => if isGap c then .ok (skipGap rest) else .error (.expected "a gap")
  | [] => .error (.expected "a gap")

theorem length_needGap {cs rest : List Char} (h : needGap cs = .ok rest) :
    rest.length < cs.length := by
  match cs with
  | [] => simp [needGap] at h
  | c :: more =>
    have := length_skipGap more
    grind [needGap]

/-- A text without the mark that must stand at its start. -/
def needMark (mark : String) (cs : List Char) : Except Fault (List Char) :=
  if mark.toList.isPrefixOf cs then .ok (cs.drop mark.length)
  else .error (.expected mark)

theorem length_needMark {mark : String} {cs rest : List Char} (h : needMark mark cs = .ok rest) :
    rest.length ≤ cs.length := by
  grind [needMark]

/-- The characters before the first occurrence of a mark, and those after it. -/
def cutAt? (mark : List Char) : List Char → Option (List Char × List Char)
  | [] => if mark.isEmpty then some ([], []) else none
  | c :: rest =>
    if mark.isPrefixOf (c :: rest) then some ([], (c :: rest).drop mark.length)
    else (cutAt? mark rest).map fun found => (c :: found.1, found.2)

theorem length_cutAt? {mark cs inner rest : List Char} (h : cutAt? mark cs = some (inner, rest)) :
    rest.length ≤ cs.length := by
  induction cs generalizing inner with
  | nil => grind [cutAt?]
  | cons c more ih =>
    simp only [cutAt?] at h
    split at h
    · grind
    · obtain ⟨⟨before, after⟩, found, same⟩ := Option.map_eq_some_iff.1 h
      have := @ih before
      grind

/-- The characters before a mark that must come, all of them legal, and those after it. -/
def readUntil (mark : String) (cs : List Char) : Except Fault ((List Char) × List Char) :=
  match cutAt? mark.toList cs with
  | none => .error (.expected mark)
  | some (inner, rest) =>
    if inner.all isLegal then .ok (inner, rest) else .error (.illegal "a character")

theorem length_readUntil {mark : String} {cs inner rest : List Char}
    (h : readUntil mark cs = .ok (inner, rest)) : rest.length ≤ cs.length := by
  unfold readUntil at h
  split at h
  · cases h
  · rename_i found
    have := length_cutAt? found
    grind

/-! ### References -/

/-- The characters that have a name of their own everywhere. -/
def predefined : List (String × Char) :=
  [("lt", '<'), ("gt", '>'), ("amp", '&'), ("quot", '\x22'), ("apos", '\x27')]

/-- The number written by digits of a base, if there is at least one and all are. -/
def number? (base : Nat) (value? : Char → Option Nat) : List Char → Option Nat
  | [] => none
  | cs => (cs.mapM value?).map fun ds => ds.foldl (fun n d => base * n + d) 0

/-- The value of an ASCII decimal digit. -/
def asciiDecimal? (c : Char) : Option Nat :=
  if '0' ≤ c ∧ c ≤ '9' then some (c.toNat - 48) else none

/-- The value of an ASCII hexadecimal digit. -/
def asciiHex? (c : Char) : Option Nat :=
  if 'a' ≤ c ∧ c ≤ 'f' then some (c.toNat - 87)
  else if 'A' ≤ c ∧ c ≤ 'F' then some (c.toNat - 55)
  else asciiDecimal? c

/-- The legal character that a reference by number stands for. -/
def numbered? (cs : List Char) : Option Char := do
  let n ← match cs with
    | 'x' :: digits => number? 16 asciiHex? digits
    | digits => number? 10 asciiDecimal? digits
  if n.isValidChar ∧ isLegal (Char.ofNat n) then some (Char.ofNat n) else none

/-- A character of a value or of a run of text, or a reference to an entity there. -/
inductive Letter where
  /-- A character that stands for itself. -/
  | plain (c : Char)
  /-- A character written as a reference. -/
  | coded (c : Char)
  /-- A reference to an entity that is not predefined. -/
  | entity (name : String)
  deriving Repr

/-- What stands between an ampersand and a semicolon. -/
def readReference (cs : List Char) : Except Fault Letter :=
  match cs with
  | '#' :: digits =>
    match numbered? digits with
    | some c => .ok (.coded c)
    | none => .error (.illegal "a reference by number")
  | _ =>
    match takeName? cs with
    | some (name, []) =>
      match predefined.find? (·.1 == name) with
      | some (_, c) => .ok (.coded c)
      | none => .ok (.entity name)
    | _ => .error (.expected "the name of an entity")

/-- Reads a text whose references are marked by an ampersand and a semicolon. The
characters of an unfinished reference are held newest first. -/
def readLetters (held? : Option (List Char)) : List Char → Except Fault (List Letter)
  | [] => if held?.isSome then .error (.expected ";") else .ok []
  | c :: rest =>
    match held? with
    | some held =>
      if c == ';' then do
        let letter ← readReference held.reverse
        let more ← readLetters none rest
        .ok (letter :: more)
      else readLetters (some (c :: held)) rest
    | none =>
      if c == '&' then readLetters (some []) rest
      else if isLegal c then do
        let more ← readLetters none rest
        .ok (.plain c :: more)
      else .error (.illegal "a character")

/-! ### Tags -/

/-- The parts of a value, a run of characters begun with those of `run`, which are held
newest first. -/
def piecesFrom (run : List Char) : List Letter → List Piece
  | [] => if run.isEmpty then [] else [.chars (String.ofList run.reverse)]
  | .plain c :: rest => piecesFrom (c :: run) rest
  | .coded c :: rest => piecesFrom (c :: run) rest
  | .entity name :: rest =>
    let more := .reference name "" :: piecesFrom [] rest
    if run.isEmpty then more else .chars (String.ofList run.reverse) :: more

/-- A value as it stands between its quotes: gaps become spaces. -/
def readValue (raw : List Char) : Except Fault (List Piece) :=
  if raw.contains '<' then .error (.illegal "the start of a tag")
  else do
    let letters ← readLetters none (raw.map fun c => if isGap c then ' ' else c)
    .ok (piecesFrom [] letters)

/-- One attribute: its name, an equals sign and a quoted value. -/
def readAttribute (cs : List Char) : Except Fault ((String × List Piece) × List Char) := do
  let (name, rest) ← readName cs
  let rest ← needMark "=" (skipGap rest)
  match skipGap rest with
  | quote :: rest =>
    if quote == '\x22' || quote == '\x27' then
      match cutAt? [quote] rest with
      | some (raw, rest) => do
        let pieces ← readValue raw
        .ok ((name, pieces), rest)
      | none => .error (.expected "the end of a value")
    else .error (.expected "a quoted value")
  | [] => .error (.expected "a quoted value")

theorem length_readAttribute {cs rest : List Char} {a : String × List Piece}
    (h : readAttribute cs = .ok (a, rest)) : rest.length < cs.length := by
  simp only [readAttribute, bind_eq_ok] at h
  obtain ⟨⟨name, afterName⟩, hName, afterMark, hMark, h⟩ := h
  have := length_readName hName
  have := length_needMark hMark
  have := length_skipGap afterName
  have := length_skipGap afterMark
  split at h
  · split at h
    · split at h
      · rename_i hCut
        have := length_cutAt? hCut
        simp only [bind_eq_ok] at h
        obtain ⟨_, _, h⟩ := h
        grind
      · cases h
    · cases h
  · cases h

/-- The attributes of a start tag and its end; whether the element ends there too. A gap stands
before every attribute. -/
def readAttributes (cs : List Char) : Except Fault ((List (String × List Piece) × Bool) × List Char) :=
  match inside : skipGap cs with
  | '>' :: rest => .ok (([], false), rest)
  | '/' :: '>' :: rest => .ok (([], true), rest)
  | inner =>
    if cs.head?.any isGap then
      match first : readAttribute inner with
      | .error fault => .error fault
      | .ok (found, rest) =>
        have : rest.length < cs.length :=
          Nat.lt_of_lt_of_le (length_readAttribute first) (inside ▸ length_skipGap cs)
        match readAttributes rest with
        | .error fault => .error fault
        | .ok ((others, closed), rest) => .ok ((found :: others, closed), rest)
    else .error (.expected "a gap or the end of a tag")
termination_by cs.length

theorem length_readAttributes {cs rest : List Char} {found : List (String × List Piece) × Bool}
    (h : readAttributes cs = .ok (found, rest)) : rest.length ≤ cs.length := by
  fun_induction readAttributes cs generalizing found rest with
  | case1 cs more inside =>
    have := inside ▸ length_skipGap cs
    grind
  | case2 cs more inside =>
    have := inside ▸ length_skipGap cs
    grind
  | case3 => cases h
  | case4 => cases h
  | case5 _ _ _ _ _ _ _ others _ _ _ shorter ih =>
    have := ih others
    grind
  | case6 => cases h

/-- A start tag, from its name on. -/
def readOpening (cs : List Char) : Except Fault (Token × List Char) := do
  let (name, rest) ← readName cs
  let ((attributes, closed), rest) ← readAttributes rest
  .ok (.opening name attributes closed, rest)

theorem length_readOpening {cs rest : List Char} {token : Token}
    (h : readOpening cs = .ok (token, rest)) : rest.length < cs.length := by
  simp only [readOpening, bind_eq_ok] at h
  obtain ⟨⟨name, afterName⟩, hName, ⟨⟨attributes, closed⟩, afterTag⟩, hTag, h⟩ := h
  have := length_readName hName
  have := length_readAttributes hTag
  grind

/-- An end tag, from its name on. -/
def readClosing (cs : List Char) : Except Fault (Token × List Char) := do
  let (name, rest) ← readName cs
  let rest ← needMark ">" (skipGap rest)
  .ok (.closing name, rest)

theorem length_readClosing {cs rest : List Char} {token : Token}
    (h : readClosing cs = .ok (token, rest)) : rest.length < cs.length := by
  simp only [readClosing, bind_eq_ok] at h
  obtain ⟨⟨name, afterName⟩, hName, afterMark, hMark, h⟩ := h
  have := length_readName hName
  have := length_skipGap afterName
  have := length_needMark hMark
  grind

/-! ### Comments, instructions and literal sections -/

/-- A comment, from after its opening mark on. Two hyphens stand only at its end. -/
def readComment (cs : List Char) : Except Fault (Token × List Char) := do
  let (inner, rest) ← readUntil "--" cs
  let rest ← needMark ">" rest
  .ok (.comment (String.ofList inner), rest)

theorem length_readComment {cs rest : List Char} {token : Token}
    (h : readComment cs = .ok (token, rest)) : rest.length ≤ cs.length := by
  simp only [readComment, bind_eq_ok] at h
  obtain ⟨⟨inner, afterInner⟩, hInner, afterMark, hMark, h⟩ := h
  have := length_readUntil hInner
  have := length_needMark hMark
  grind

/-- A processing instruction, from its target on. -/
def readInstruction (cs : List Char) : Except Fault (Token × List Char) := do
  let (target, rest) ← readName cs
  if target == "xml" then .error (.illegal "a declaration of the version")
  else if "?>".toList.isPrefixOf rest then .ok (.instruction target "", rest.drop 2)
  else do
    let rest ← needGap rest
    let (data, rest) ← readUntil "?>" rest
    .ok (.instruction target (String.ofList data), rest)

theorem length_readInstruction {cs rest : List Char} {token : Token}
    (h : readInstruction cs = .ok (token, rest)) : rest.length < cs.length := by
  simp only [readInstruction, bind_eq_ok] at h
  obtain ⟨⟨target, afterTarget⟩, hTarget, h⟩ := h
  have := length_readName hTarget
  split at h
  · cases h
  · split at h
    · grind
    · simp only [bind_eq_ok] at h
      obtain ⟨afterGap, hGap, ⟨data, afterData⟩, hData, h⟩ := h
      have := length_needGap hGap
      have := length_readUntil hData
      grind

/-- A literal section, from after its opening mark on. -/
def readLiteral (cs : List Char) : Except Fault (Token × List Char) := do
  let (inner, rest) ← readUntil "]]>" cs
  .ok (.chars (String.ofList inner) false, rest)

theorem length_readLiteral {cs rest : List Char} {token : Token}
    (h : readLiteral cs = .ok (token, rest)) : rest.length ≤ cs.length := by
  simp only [readLiteral, bind_eq_ok] at h
  obtain ⟨⟨inner, afterInner⟩, hInner, h⟩ := h
  have := length_readUntil hInner
  grind

/-! ### Runs of text -/

/-- The tokens of a run of text, a run of characters begun with those of `run`, which are
held newest first and stand for themselves if `asIs` says so. -/
def charTokens (run : List Char) (asIs : Bool) : List Letter → List Token
  | [] => if run.isEmpty then [] else [.chars (String.ofList run.reverse) asIs]
  | .plain c :: rest => charTokens (c :: run) asIs rest
  | .coded c :: rest => charTokens (c :: run) false rest
  | .entity name :: rest =>
    let more := .reference name :: charTokens [] true rest
    if run.isEmpty then more else .chars (String.ofList run.reverse) asIs :: more

/-- The tokens of the text between two tags. -/
def readText (raw : List Char) : Except Fault (List Token) :=
  if (cutAt? "]]>".toList raw).isSome then .error (.illegal "the end of a literal section")
  else do
    let letters ← readLetters none raw
    .ok (charTokens [] true letters)

end ReleaseNotes.Markup
