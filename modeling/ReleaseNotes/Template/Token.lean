import ReleaseNotes.Template.Literal
import ReleaseNotes.Text.Blank
import ReleaseNotes.Text.Letter
import ReleaseNotes.Text.Line

/-!
# Pieces and tokens

A template is a text with tags in it: expressions to write between `{{` and `}}`, directives
between `{%` and `%}`, and remarks between `{#` and `#}`. A minus sign just inside of a tag
takes away the blanks on that side of it. Between the directives `raw` and `endraw`
everything is text.

Reading a template this far gives its pieces, with the tokens of each tag (`pieces`). A
bracket that is still open in a tag keeps the tag from ending.
-/

namespace ReleaseNotes.Template

/-- A token inside of a tag. -/
inductive Token where
  /-- A name or a word of the language. -/
  | name (s : String)
  /-- A text in quotes. -/
  | text (s : String)
  /-- An integer. -/
  | int (n : Nat)
  /-- A floating-point number. -/
  | float (x : Float)
  /-- An operator, a bracket or another sign. -/
  | sign (s : String)
  deriving Repr

/-- A piece of a template. -/
inductive Piece where
  /-- Text that is written as it is. -/
  | text (s : String)
  /-- An expression to write. -/
  | output (tokens : List Token)
  /-- A directive. -/
  | directive (tokens : List Token)
  deriving Repr

/-- The kinds of tags. -/
inductive TagKind where
  /-- An expression to write. -/
  | output
  /-- A directive. -/
  | directive
  /-- A remark. -/
  | remark
  deriving DecidableEq, Repr

/-- The character inside of the braces of a tag at its end. -/
def TagKind.mark : TagKind → Char
  | .output => '}'
  | .directive => '%'
  | .remark => '#'

/-- A text without the blanks at its start. -/
def dropBlanks (cs : List Char) : List Char :=
  cs.dropWhile Text.isBlank

theorem length_dropBlanks (cs : List Char) : (dropBlanks cs).length ≤ cs.length :=
  (List.dropWhile_suffix _).length_le

/-- The sign just after the start of a tag: whether it takes blanks away, and what follows it. -/
def takeTrim : List Char → Bool × List Char
  | '-' :: rest => (true, rest)
  | '+' :: rest => (false, rest)
  | cs => (false, cs)

theorem length_takeTrim (cs : List Char) : (takeTrim cs).2.length ≤ cs.length := by
  rw [takeTrim.eq_def]
  split <;> simp

/-- The kind of the tag that a text begins with, and what follows its two opening characters. -/
def opening? : List Char → Option (TagKind × List Char)
  | '\x7b' :: '\x7b' :: rest => some (.output, rest)
  | '\x7b' :: '%' :: rest => some (.directive, rest)
  | '\x7b' :: '#' :: rest => some (.remark, rest)
  | _ => none

theorem length_opening? {cs inner : List Char} {kind : TagKind} (h : opening? cs = some (kind, inner)) :
    inner.length < cs.length := by
  rw [opening?.eq_def] at h
  split at h <;> grind

/-- What follows the end of a tag, if a text begins with it. A minus sign takes the blanks after
the tag away; a plus sign does nothing. -/
def closing? (kind : TagKind) : List Char → Option (List Char)
  | '-' :: c :: '\x7d' :: rest => if c == kind.mark then some (dropBlanks rest) else none
  | '+' :: c :: '\x7d' :: rest => if c == kind.mark && kind != .output then some rest else none
  | c :: '\x7d' :: rest => if c == kind.mark then some rest else none
  | _ => none

theorem length_closing? {kind : TagKind} {cs after : List Char} (h : closing? kind cs = some after) :
    after.length < cs.length := by
  have := length_dropBlanks
  rw [closing?.eq_def] at h
  split at h <;> grind

/-- What follows a word and the blanks around it. -/
def afterWord? (word : List Char) (cs : List Char) : Option (List Char) :=
  let cs := dropBlanks cs
  if word.isPrefixOf cs then some (dropBlanks (cs.drop word.length)) else none

theorem length_afterWord? {word cs after : List Char} (h : afterWord? word cs = some after) :
    after.length ≤ cs.length := by
  have hstart := length_dropBlanks cs
  have hend := length_dropBlanks ((dropBlanks cs).drop word.length)
  grind [afterWord?]

/-- What follows the directive that begins raw text, from after the start of its tag on. -/
def afterRaw? (cs : List Char) : Option (List Char) :=
  (afterWord? ['r', 'a', 'w'] cs).bind fun rest =>
    if rest.head? == some '+' then none else closing? .directive rest

theorem length_afterRaw? {cs after : List Char} (h : afterRaw? cs = some after) : after.length < cs.length := by
  obtain ⟨rest, hword, h⟩ := Option.bind_eq_some_iff.mp h
  split at h
  · cases h
  · exact Nat.lt_of_lt_of_le (length_closing? h) (length_afterWord? hword)

/-- Text without the blanks at its end, if they are taken away. -/
def trimEnd (trims : Bool) (cs : List Char) : List Char :=
  if trims then Text.dropWhileEnd Text.isBlank cs else cs

/-- Raw text and what follows the directive that ends it. The text is held newest first. -/
def readRaw (before : List Char) : List Char → Option (List Char × List Char)
  | [] => none
  | c :: rest =>
    let ended? := match opening? (c :: rest) with
      | some (.directive, inner) =>
        let (trims, inner) := takeTrim inner
        ((afterWord? ['e', 'n', 'd', 'r', 'a', 'w'] inner).bind (closing? .directive)).map
          fun after => (trimEnd trims before.reverse, after)
      | _ => none
    match ended? with
    | some found => some found
    | none => readRaw (c :: before) rest

theorem length_readRaw {before cs inner after : List Char} (h : readRaw before cs = some (inner, after)) :
    after.length < cs.length := by
  fun_induction readRaw before cs with
  | case1 => cases h
  | case2 before c rest ended? found hended =>
    cases h
    simp only [ended?] at hended
    split at hended
    · next inner hopening =>
      obtain ⟨_, hclosing, he⟩ := Option.map_eq_some_iff.mp hended
      obtain ⟨word, hword, hclosing⟩ := Option.bind_eq_some_iff.mp hclosing
      cases he
      have := length_opening? hopening
      have := length_takeTrim inner
      have := length_afterWord? hword
      have := length_closing? hclosing
      omega
    · cases hended
  | case3 before c rest ended? hended ih =>
    exact Nat.lt_succ_of_lt (ih h)

/-- What follows the end of a remark. -/
def afterRemark? : List Char → Option (List Char)
  | [] => none
  | c :: rest =>
    match closing? .remark (c :: rest) with
    | some after => some after
    | none => afterRemark? rest

theorem length_afterRemark? {cs after : List Char} (h : afterRemark? cs = some after) :
    after.length < cs.length := by
  fun_induction afterRemark? cs with
  | case1 => cases h
  | case2 c rest found hclosing =>
    cases h
    exact length_closing? hclosing
  | case3 c rest hclosing ih => exact Nat.lt_succ_of_lt (ih h)

/-! ### Tokens -/

/-- The signs of two characters. -/
def doubleSigns : List String := ["//", "**", "==", "!=", ">=", "<="]

/-- The signs of one character. -/
def singleSigns : List Char :=
  ['+', '-', '/', '*', '%', '~', '[', ']', '(', ')', '\x7b', '\x7d', '>', '<', '=', '.', ':', '|',
   ',', ';']

/-- The brackets that open, each with the one that closes it. -/
def bracketPairs : List (Char × Char) :=
  [('[', ']'), ('(', ')'), ('\x7b', '\x7d')]

/-- The sign at the start of a text, and what follows it. -/
def readSign? : List Char → Option (String × List Char)
  | [] => none
  | c :: rest =>
    let double := match rest with
      | d :: _ => String.ofList [c, d]
      | [] => ""
    if doubleSigns.contains double then some (double, rest.drop 1)
    else if singleSigns.contains c then some (String.singleton c, rest)
    else none

theorem length_readSign? {cs rest : List Char} {sign : String} (h : readSign? cs = some (sign, rest)) :
    rest.length < cs.length := by
  rw [readSign?.eq_def] at h
  split at h <;> grind

/-- The token at the start of a text, and what follows it. Just after a point, digits are an
integer whatever follows. -/
def readToken (afterPoint : Bool) (cs : List Char) : Except Fault (Token × List Char) :=
  let unexpected : Except Fault (Token × List Char) := .error (.malformed "unexpected character")
  match cs with
  | [] => unexpected
  | c :: rest =>
    let float? := if afterPoint then none else readFloat? cs
    match float?, readInteger? cs with
    | some (x, rest), _ => .ok (.float x, rest)
    | none, some (n, rest) => n.map fun n => (.int n, rest)
    | none, none =>
      if Text.isLetter c then
        .ok (.name (String.ofList (cs.takeWhile Text.isNamePart)), cs.dropWhile Text.isNamePart)
      else if c == '\x22' || c == '\x27' then
        match readQuoted c rest with
        | none => unexpected
        | some (inner, after) => (unescape inner).map fun s => (.text (String.ofList s), after)
      else
        match readSign? cs with
        | some (sign, rest) => .ok (.sign sign, rest)
        | none => unexpected

theorem length_readToken {afterPoint : Bool} {cs rest : List Char} {token : Token}
    (h : readToken afterPoint cs = .ok (token, rest)) : rest.length < cs.length := by
  cases cs with
  | nil => cases h
  | cons c more =>
    simp only [readToken] at h
    split at h
    · next hfloat =>
      cases h
      split at hfloat
      · cases hfloat
      · exact length_readFloat? hfloat
    · next made after _ hinteger =>
      cases made <;> cases h
      exact length_readInteger? hinteger
    · split at h
      · next hletter =>
        cases h
        have := (List.dropWhile_suffix (l := more) Text.isNamePart).length_le
        simp [Text.isNamePart, hletter]
        omega
      · split at h
        · split at h
          · cases h
          · next inner after hquoted =>
            have := length_readQuoted hquoted
            cases hs : unescape inner <;> rw [hs] at h <;> cases h
            exact Nat.lt_succ_of_lt this
        · split at h
          · next hsign =>
            cases h
            exact length_readSign? hsign
          · cases h

/-- The brackets that are open after a token, the innermost first. -/
def openAfter (opened : List Char) (token : Token) : Except Fault (List Char) :=
  match token with
  | .sign s =>
    match bracketPairs.find? fun p => String.singleton p.1 == s, opened with
    | some p, _ => .ok (p.2 :: opened)
    | none, close :: outer =>
      if String.singleton close == s then .ok outer
      else if bracketPairs.any fun p => String.singleton p.2 == s then
        .error (.malformed "unexpected bracket")
      else .ok opened
    | none, [] =>
      if bracketPairs.any fun p => String.singleton p.2 == s then
        .error (.malformed "unexpected bracket")
      else .ok opened
  | _ => .ok opened

/-- Whether a token is a point. -/
def Token.isPoint : Token → Bool
  | .sign s => s == "."
  | _ => false

/-- The tokens of a tag up to its end, and what follows it. -/
def readTokens (kind : TagKind) (opened : List Char) (afterPoint : Bool) (cs : List Char) :
    Except Fault (List Token × List Char) :=
  match if opened.isEmpty then closing? kind cs else none with
  | some after => .ok ([], after)
  | none =>
    match cs with
    | [] => .error (.malformed "unexpected end of template")
    | c :: rest =>
      if Text.isBlank c then readTokens kind opened false rest
      else
        match first : readToken afterPoint (c :: rest) with
        | .error fault => .error fault
        | .ok (token, after) =>
          have : after.length < (c :: rest).length := length_readToken first
          match openAfter opened token with
          | .error fault => .error fault
          | .ok opened =>
            match readTokens kind opened token.isPoint after with
            | .error fault => .error fault
            | .ok (tokens, after) => .ok (token :: tokens, after)
termination_by cs.length
decreasing_by
  · exact Nat.lt_succ_self rest.length
  · exact this

theorem length_readTokens {kind : TagKind} {opened cs after : List Char} {afterPoint : Bool}
    {tokens : List Token} (h : readTokens kind opened afterPoint cs = .ok (tokens, after)) :
    after.length < cs.length := by
  fun_induction readTokens kind opened afterPoint cs generalizing tokens with
  | case1 opened afterPoint cs found hclosing =>
    cases h
    split at hclosing
    · exact length_closing? hclosing
    · cases hclosing
  | case2 => cases h
  | case3 opened afterPoint c rest _ _ ih => exact Nat.lt_succ_of_lt (ih h)
  | case4 => cases h
  | case5 => cases h
  | case6 => cases h
  | case7 opened afterPoint c rest _ token more _ shorter inside _ others after' hmore _ ih =>
    cases h
    exact Nat.lt_trans (ih hmore) shorter

/-! ### Pieces -/

/-- The text before the first tag, and what the tag begins with. The text is held newest first. -/
def readText (before : List Char) : List Char → List Char × Option (TagKind × List Char)
  | [] => (before.reverse, none)
  | c :: rest =>
    match opening? (c :: rest) with
    | some found => (before.reverse, some found)
    | none => readText (c :: before) rest

theorem length_readText {before cs found inner : List Char} {kind : TagKind}
    (h : readText before cs = (found, some (kind, inner))) : inner.length < cs.length := by
  fun_induction readText before cs with
  | case1 => cases h
  | case2 before c rest opened hopening =>
    cases h
    exact length_opening? hopening
  | case3 before c rest hopening ih => exact Nat.lt_succ_of_lt (ih h)

/-- The piece that a tag is, if it is one, and what follows the tag, from after its opening
characters and their sign on. -/
def readTag (kind : TagKind) (inner : List Char) : Except Fault (Option Piece × List Char) :=
  match kind with
  | .output => (readTokens .output [] false inner).map fun (tokens, after) => (some (.output tokens), after)
  | .remark =>
    match afterRemark? inner with
    | some after => .ok (none, after)
    | none => .error (.malformed "Missing end of comment tag")
  | .directive =>
    match afterRaw? inner with
    | some raw =>
      match readRaw [] raw with
      | some (s, after) => .ok (some (.text (String.ofList s)), after)
      | none => .error (.malformed "Missing end of raw directive")
    | none =>
      (readTokens .directive [] false inner).map fun (tokens, after) => (some (.directive tokens), after)

theorem length_readTag {kind : TagKind} {inner after : List Char} {piece? : Option Piece}
    (h : readTag kind inner = .ok (piece?, after)) : after.length < inner.length := by
  have htokens (kind : TagKind) (wrap : List Token → Option Piece)
      (h : (readTokens kind [] false inner).map (fun (tokens, after) => (wrap tokens, after)) =
        .ok (piece?, after)) : after.length < inner.length := by
    cases hf : readTokens kind [] false inner <;> rw [hf] at h <;> cases h
    exact length_readTokens hf
  cases kind with
  | output => exact htokens .output (fun tokens => some (.output tokens)) h
  | remark =>
    simp only [readTag] at h
    split at h <;> cases h
    next hremark => exact length_afterRemark? hremark
  | directive =>
    simp only [readTag] at h
    split at h
    · next hraw =>
      split at h <;> cases h
      next hinner => exact Nat.lt_trans (length_readRaw hinner) (length_afterRaw? hraw)
    · exact htokens .directive (fun tokens => some (.directive tokens)) h

/-- The pieces of a template whose line ends are unified. -/
def readPieces (cs : List Char) : Except Fault (List Piece) :=
  match start : readText [] cs with
  | (before, none) => .ok [.text (String.ofList before)]
  | (before, some (kind, inner)) =>
    match tag : readTag kind (takeTrim inner).2 with
    | .error fault => .error fault
    | .ok (piece?, after) =>
      have : after.length < cs.length :=
        Nat.lt_of_lt_of_le (length_readTag tag)
          (Nat.le_trans (length_takeTrim inner) (Nat.le_of_lt (length_readText start)))
      match readPieces after with
      | .error fault => .error fault
      | .ok pieces =>
        .ok (.text (String.ofList (trimEnd (takeTrim inner).1 before)) :: (piece?.toList ++ pieces))
termination_by cs.length

/-- A text without the one line feed at its end. -/
def dropLastLine (cs : List Char) : List Char :=
  if cs.getLast? == some '\n' then cs.dropLast else cs

/-- The pieces of a template. The end of its last line does not count. -/
def pieces (template : String) : Except Fault (List Piece) :=
  readPieces (dropLastLine (Text.unifyLines template.toList))

end ReleaseNotes.Template
