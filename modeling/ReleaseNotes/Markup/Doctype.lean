import ReleaseNotes.Markup.Token

/-!
# Document types

Reading a document type: the identifiers of the part that is kept elsewhere, and
the declarations between brackets. Only the entities are remembered. Elements,
attributes and notations are read so that what follows them is found, and nothing
is ever checked against them. So an attribute that is left out has no value, even
where a default is declared for it, and the value of one that is there keeps its
spaces, whatever its type is declared to be.

A parameter entity that stands between declarations is read in its place. Its own
text may refer to others, to a fixed depth.
-/

namespace ReleaseNotes.Markup

/-- A text in quotes, and what follows it. -/
def readQuoted (cs : List Char) : Except Fault (List Char × List Char) :=
  match cs with
  | quote :: rest =>
    if quote == '\x22' || quote == '\x27' then readUntil (String.singleton quote) rest
    else .error (.expected "a quoted text")
  | [] => .error (.expected "a quoted text")

theorem length_readQuoted {cs inner rest : List Char} (h : readQuoted cs = .ok (inner, rest)) :
    rest.length < cs.length := by
  match cs with
  | [] => cases h
  | quote :: more =>
    simp only [readQuoted] at h
    split at h
    · have := length_readUntil h
      grind
    · cases h

/-- Whether a character may stand in a public name. -/
def isPublic (c : Char) : Bool :=
  c == '\n' || c == '\r' || ('a' ≤ c && c ≤ 'z') || ('A' ≤ c && c ≤ 'Z') || ('0' ≤ c && c ≤ '9') ||
    " -\x27()+,./:=?;!*#@$_%".toList.contains c

/-- The identifiers of something kept elsewhere, if they stand here. -/
def readOutside? (cs : List Char) :
    Except Fault (Option (Option String × String) × List Char) := do
  if "SYSTEM".toList.isPrefixOf cs then
    let rest ← needGap (cs.drop 6)
    let (address, rest) ← readQuoted rest
    .ok (some (none, String.ofList address), rest)
  else if "PUBLIC".toList.isPrefixOf cs then
    let rest ← needGap (cs.drop 6)
    let (title, rest) ← readQuoted rest
    if title.all isPublic then
      let rest ← needGap rest
      let (address, rest) ← readQuoted rest
      .ok (some (some (String.ofList title), String.ofList address), rest)
    else .error (.illegal "a character")
  else .ok (none, cs)

theorem length_readOutside? {cs rest : List Char} {found? : Option (Option String × String)}
    (h : readOutside? cs = .ok (found?, rest)) : rest.length ≤ cs.length := by
  simp only [readOutside?] at h
  split at h
  · simp only [bind_eq_ok] at h
    obtain ⟨afterGap, hGap, ⟨address, afterAddress⟩, hAddress, h⟩ := h
    have := length_needGap hGap
    have := length_readQuoted hAddress
    grind
  · split at h
    · simp only [bind_eq_ok] at h
      obtain ⟨afterGap, hGap, ⟨title, afterTitle⟩, hTitle, h⟩ := h
      have := length_needGap hGap
      have := length_readQuoted hTitle
      split at h
      · simp only [bind_eq_ok] at h
        obtain ⟨afterGap, hGap, ⟨address, afterAddress⟩, hAddress, h⟩ := h
        have := length_needGap hGap
        have := length_readQuoted hAddress
        grind
      · cases h
    · grind

/-! ### Entities -/

/-- The value of an entity: references by number are replaced, those by name are kept as
they are written. The characters of an unfinished reference are held newest first. -/
def readEntityValue (held? : Option (List Char)) : List Char → Except Fault (List Char)
  | [] => if held?.isSome then .error (.expected ";") else .ok []
  | c :: rest =>
    match held? with
    | some held =>
      if c == ';' then do
        let more ← readEntityValue none rest
        match held.reverse with
        | '#' :: digits =>
          match numbered? digits with
          | some d => .ok (d :: more)
          | none => .error (.illegal "a reference by number")
        | name =>
          match takeName? name with
          | some (_, []) => .ok ('&' :: (name ++ ';' :: more))
          | _ => .error (.expected "the name of an entity")
      else readEntityValue (some (c :: held)) rest
    | none =>
      if c == '&' then readEntityValue (some []) rest
      else if c == '%' then .error (.illegal "a reference to a parameter entity")
      else (c :: ·) <$> readEntityValue none rest

/-- What an entity stands for, from after its name on. -/
def readEntity (isParameter : Bool) (cs : List Char) : Except Fault (Entity × List Char) := do
  let rest ← needGap cs
  match rest with
  | '\x22' :: _ | '\x27' :: _ =>
    let (raw, rest) ← readQuoted rest
    let value ← readEntityValue none raw
    let rest ← needMark ">" (skipGap rest)
    .ok (.text value, rest)
  | _ =>
    let (outside?, rest) ← readOutside? rest
    if outside?.isNone then .error (.expected "the value of an entity")
    else if "NDATA".toList.isPrefixOf (skipGap rest) && !isParameter then
      let rest ← needGap rest
      let rest ← needGap (rest.drop 5)
      let (_, rest) ← readName rest
      let rest ← needMark ">" (skipGap rest)
      .ok (.elsewhere false, rest)
    else
      let rest ← needMark ">" (skipGap rest)
      .ok (.elsewhere true, rest)

theorem length_readEntity {isParameter : Bool} {cs rest : List Char} {entity : Entity}
    (h : readEntity isParameter cs = .ok (entity, rest)) : rest.length < cs.length := by
  simp only [readEntity, bind_eq_ok] at h
  obtain ⟨afterGap, hGap, h⟩ := h
  have := length_needGap hGap
  split at h
  case h_3 =>
    simp only [bind_eq_ok] at h
    obtain ⟨⟨outside?, afterOutside⟩, hOutside, h⟩ := h
    have := length_readOutside? hOutside
    split at h
    · cases h
    · have := length_skipGap afterOutside
      split at h
      · simp only [bind_eq_ok] at h
        obtain ⟨first, hFirst, second, hSecond, ⟨name, afterName⟩, hName, afterMark, hMark, h⟩ := h
        have := length_needGap hFirst
        have := length_needGap hSecond
        have := length_readName hName
        have := length_skipGap afterName
        have := length_needMark hMark
        grind
      · simp only [bind_eq_ok] at h
        obtain ⟨afterMark, hMark, h⟩ := h
        have := length_needMark hMark
        grind
  all_goals
    simp only [bind_eq_ok] at h
    obtain ⟨⟨raw, afterRaw⟩, hRaw, value, hValue, afterMark, hMark, h⟩ := h
    have := length_readQuoted hRaw
    have := length_skipGap afterRaw
    have := length_needMark hMark
    grind

/-- The document type after the declaration of an entity, from after its keyword on. -/
def Doctype.readEntity (d : Doctype) (cs : List Char) : Except Fault (Doctype × List Char) := do
  let rest ← needGap cs
  match rest with
  | '%' :: rest =>
    let rest ← needGap rest
    let (name, rest) ← readName rest
    let (entity, rest) ← Markup.readEntity true rest
    .ok (⟨d.outside?, d.refersOutside, d.entities, d.parameters ++ [(name, entity)]⟩, rest)
  | _ =>
    let (name, rest) ← readName rest
    let (entity, rest) ← Markup.readEntity false rest
    .ok (⟨d.outside?, d.refersOutside, d.entities ++ [(name, entity)], d.parameters⟩, rest)

theorem Doctype.length_readEntity {d found : Doctype} {cs rest : List Char}
    (h : d.readEntity cs = .ok (found, rest)) : rest.length < cs.length := by
  simp only [Doctype.readEntity, bind_eq_ok] at h
  obtain ⟨afterGap, hGap, h⟩ := h
  have := length_needGap hGap
  split at h
  · simp only [bind_eq_ok] at h
    obtain ⟨inner, hInner, ⟨name, afterName⟩, hName, ⟨entity, afterEntity⟩, hEntity, h⟩ := h
    have := length_needGap hInner
    have := length_readName hName
    have := Markup.length_readEntity hEntity
    grind
  · simp only [bind_eq_ok] at h
    obtain ⟨⟨name, afterName⟩, hName, ⟨entity, afterEntity⟩, hEntity, h⟩ := h
    have := length_readName hName
    have := Markup.length_readEntity hEntity
    grind

/-! ### Declarations that are passed over -/

/-- Whether a text is the content model of an element. -/
def isModel (cs : List Char) : Bool :=
  let inner := (cs.reverse.dropWhile isGap).reverse
  inner == "EMPTY".toList || inner == "ANY".toList ||
    (inner.head? == some '(' &&
      inner.all (fun c => isNameChar c || isGap c || "(),|?*+#".toList.contains c) &&
      inner.count '(' == inner.count ')')

/-- Passes over the declaration of an element, from after its keyword on. -/
def skipElement (cs : List Char) : Except Fault (List Char) := do
  let rest ← needGap cs
  let (_, rest) ← readName rest
  let rest ← needGap rest
  let (model, rest) ← readUntil ">" rest
  if isModel model then .ok rest else .error (.expected "a content model")

theorem length_skipElement {cs rest : List Char} (h : skipElement cs = .ok rest) :
    rest.length < cs.length := by
  simp only [skipElement, bind_eq_ok] at h
  obtain ⟨afterGap, hGap, ⟨name, afterName⟩, hName, inner, hInner, ⟨model, afterModel⟩, hModel, h⟩ := h
  have := length_needGap hGap
  have := length_readName hName
  have := length_needGap hInner
  have := length_readUntil hModel
  grind

/-- Passes over a list in parentheses. -/
def skipChoices (cs : List Char) : Except Fault (List Char) := do
  let rest ← needMark "(" cs
  let (_, rest) ← readUntil ")" rest
  .ok rest

theorem length_skipChoices {cs rest : List Char} (h : skipChoices cs = .ok rest) :
    rest.length ≤ cs.length := by
  simp only [skipChoices, bind_eq_ok] at h
  obtain ⟨afterMark, hMark, ⟨inner, afterInner⟩, hInner, h⟩ := h
  have := length_needMark hMark
  have := length_readUntil hInner
  grind

/-- Passes over the type of an attribute. -/
def skipType (cs : List Char) : Except Fault (List Char) := do
  if cs.head? == some '(' then skipChoices cs
  else
    let (name, rest) ← readName cs
    if name == "NOTATION" then
      let rest ← needGap rest
      skipChoices rest
    else if ["CDATA", "ID", "IDREF", "IDREFS", "ENTITY", "ENTITIES", "NMTOKEN", "NMTOKENS"].contains
        name then .ok rest
    else .error (.expected "the type of an attribute")

theorem length_skipType {cs rest : List Char} (h : skipType cs = .ok rest) :
    rest.length ≤ cs.length := by
  simp only [skipType] at h
  split at h
  · exact length_skipChoices h
  · simp only [bind_eq_ok] at h
    obtain ⟨⟨name, afterName⟩, hName, h⟩ := h
    have := length_readName hName
    split at h
    · simp only [bind_eq_ok] at h
      obtain ⟨afterGap, hGap, h⟩ := h
      have := length_needGap hGap
      have := length_skipChoices h
      grind
    · grind

/-- Passes over what an attribute is when it is not written. -/
def skipDefault (cs : List Char) : Except Fault (List Char) := do
  if "#REQUIRED".toList.isPrefixOf cs then .ok (cs.drop 9)
  else if "#IMPLIED".toList.isPrefixOf cs then .ok (cs.drop 8)
  else
    let rest ← if "#FIXED".toList.isPrefixOf cs then needGap (cs.drop 6) else .ok cs
    let (raw, rest) ← readQuoted rest
    let _ ← readValue raw
    .ok rest

theorem length_skipDefault {cs rest : List Char} (h : skipDefault cs = .ok rest) :
    rest.length ≤ cs.length := by
  simp only [skipDefault] at h
  split at h
  · grind
  · split at h
    · grind
    · split at h
      all_goals
        simp only [bind_eq_ok] at h
        obtain ⟨inner, hInner, ⟨raw, afterRaw⟩, hRaw, pieces, hPieces, h⟩ := h
        have := length_readQuoted hRaw
      · have := length_needGap hInner
        grind
      · grind

/-- Passes over one attribute that a declaration lists. -/
def skipAttribute (cs : List Char) : Except Fault (List Char) := do
  let (_, rest) ← readName cs
  let rest ← needGap rest
  let rest ← skipType rest
  let rest ← needGap rest
  skipDefault rest

theorem length_skipAttribute {cs rest : List Char} (h : skipAttribute cs = .ok rest) :
    rest.length < cs.length := by
  simp only [skipAttribute, bind_eq_ok] at h
  obtain ⟨⟨name, afterName⟩, hName, first, hFirst, afterType, hType, second, hSecond, h⟩ := h
  have := length_readName hName
  have := length_needGap hFirst
  have := length_skipType hType
  have := length_needGap hSecond
  have := length_skipDefault h
  grind

/-- Passes over the attributes that a declaration lists, and its end. -/
def skipAttributes (cs : List Char) : Except Fault (List Char) :=
  match inside : skipGap cs with
  | '>' :: rest => .ok rest
  | inner =>
    match first : skipAttribute inner with
    | .error fault => .error fault
    | .ok rest =>
      have : rest.length < cs.length :=
        Nat.lt_of_lt_of_le (length_skipAttribute first) (inside ▸ length_skipGap cs)
      skipAttributes rest
termination_by cs.length

theorem length_skipAttributes {cs rest : List Char} (h : skipAttributes cs = .ok rest) :
    rest.length ≤ cs.length := by
  fun_induction skipAttributes cs with
  | case1 cs more inside =>
    have := inside ▸ length_skipGap cs
    grind
  | case2 => cases h
  | case3 _ _ _ _ shorter ih => exact Nat.le_trans (ih h) (Nat.le_of_lt shorter)

/-- Passes over the declaration of the attributes of an element, from after its keyword
on. -/
def skipAttributeList (cs : List Char) : Except Fault (List Char) := do
  let rest ← needGap cs
  let (_, rest) ← readName rest
  skipAttributes rest

theorem length_skipAttributeList {cs rest : List Char} (h : skipAttributeList cs = .ok rest) :
    rest.length < cs.length := by
  simp only [skipAttributeList, bind_eq_ok] at h
  obtain ⟨afterGap, hGap, ⟨name, afterName⟩, hName, h⟩ := h
  have := length_needGap hGap
  have := length_readName hName
  have := length_skipAttributes h
  grind

/-- Passes over the declaration of a notation, from after its keyword on. -/
def skipNotation (cs : List Char) : Except Fault (List Char) := do
  let rest ← needGap cs
  let (_, rest) ← readName rest
  let rest ← needGap rest
  if "PUBLIC".toList.isPrefixOf rest then
    let rest ← needGap (rest.drop 6)
    let (_, rest) ← readQuoted rest
    match skipGap rest with
    | '>' :: rest => .ok rest
    | rest =>
      let (_, rest) ← readQuoted rest
      needMark ">" (skipGap rest)
  else
    let (outside?, rest) ← readOutside? rest
    if outside?.isNone then .error (.expected "an identifier")
    else needMark ">" (skipGap rest)

theorem length_skipNotation {cs rest : List Char} (h : skipNotation cs = .ok rest) :
    rest.length < cs.length := by
  simp only [skipNotation, bind_eq_ok] at h
  obtain ⟨afterGap, hGap, ⟨name, afterName⟩, hName, inner, hInner, h⟩ := h
  have := length_needGap hGap
  have := length_readName hName
  have := length_needGap hInner
  split at h
  · simp only [bind_eq_ok] at h
    obtain ⟨second, hSecond, ⟨title, afterTitle⟩, hTitle, h⟩ := h
    have := length_needGap hSecond
    have := length_readQuoted hTitle
    have := length_skipGap afterTitle
    split at h
    · grind
    · simp only [bind_eq_ok] at h
      obtain ⟨⟨address, afterAddress⟩, hAddress, h⟩ := h
      have := length_readQuoted hAddress
      have := length_skipGap afterAddress
      have := length_needMark h
      grind
  · simp only [bind_eq_ok] at h
    obtain ⟨⟨outside?, afterOutside⟩, hOutside, h⟩ := h
    have := length_readOutside? hOutside
    split at h
    · cases h
    · have := length_skipGap afterOutside
      have := length_needMark h
      grind

/-! ### The declarations of a document type -/

/-- One declaration, comment or instruction, and the document type after it. Defaults and types of attributes
are passed over. -/
def Doctype.readDeclaration (d : Doctype) (cs : List Char) :
    Except Fault (Doctype × List Char) := do
  if "<!--".toList.isPrefixOf cs then
    let (_, rest) ← readComment (cs.drop 4)
    .ok (d, rest)
  else if "<?".toList.isPrefixOf cs then
    let (_, rest) ← readInstruction (cs.drop 2)
    .ok (d, rest)
  else if "<!ENTITY".toList.isPrefixOf cs then d.readEntity (cs.drop 8)
  else if "<!ELEMENT".toList.isPrefixOf cs then
    let rest ← skipElement (cs.drop 9)
    .ok (d, rest)
  else if "<!ATTLIST".toList.isPrefixOf cs then
    let rest ← skipAttributeList (cs.drop 9)
    .ok (d, rest)
  else if "<!NOTATION".toList.isPrefixOf cs then
    let rest ← skipNotation (cs.drop 10)
    .ok (d, rest)
  else .error (.expected "a declaration")

theorem Doctype.length_readDeclaration {d found : Doctype} {cs rest : List Char}
    (h : d.readDeclaration cs = .ok (found, rest)) : rest.length < cs.length := by
  simp only [Doctype.readDeclaration] at h
  split at h
  · simp only [bind_eq_ok] at h
    obtain ⟨⟨token, afterToken⟩, hToken, h⟩ := h
    have := length_readComment hToken
    grind
  split at h
  · simp only [bind_eq_ok] at h
    obtain ⟨⟨token, afterToken⟩, hToken, h⟩ := h
    have := length_readInstruction hToken
    grind
  split at h
  · have := Doctype.length_readEntity h
    grind
  split at h
  · simp only [bind_eq_ok] at h
    obtain ⟨afterElement, hElement, h⟩ := h
    have := length_skipElement hElement
    grind
  split at h
  · simp only [bind_eq_ok] at h
    obtain ⟨afterList, hList, h⟩ := h
    have := length_skipAttributeList hList
    grind
  split at h
  · simp only [bind_eq_ok] at h
    obtain ⟨afterNotation, hNotation, h⟩ := h
    have := length_skipNotation hNotation
    grind
  · cases h

/-- The name in a reference to a parameter entity, from after its percent sign on. -/
def readParameter (cs : List Char) : Except Fault (String × List Char) := do
  let (name, rest) ← readName cs
  let rest ← needMark ";" rest
  .ok (name, rest)

theorem length_readParameter {cs rest : List Char} {name : String}
    (h : readParameter cs = .ok (name, rest)) : rest.length < cs.length := by
  simp only [readParameter, bind_eq_ok] at h
  obtain ⟨⟨name, afterName⟩, hName, afterMark, hMark, h⟩ := h
  have := length_readName hName
  have := length_needMark hMark
  grind

/-- Reads declarations up to a closing bracket, or to the end if the text is that of a
parameter entity. References to parameter entities are followed to the given depth. -/
def Doctype.readDeclarations (depth : Nat) (nested : Bool) (d : Doctype) (cs : List Char) :
    Except Fault (Doctype × List Char) :=
  match inside : skipGap cs with
  | [] => if nested then .ok (d, []) else .error (.expected "]")
  | ']' :: rest => if nested then .error (.illegal "]") else .ok (d, rest)
  | '%' :: inner =>
    match first : readParameter inner with
    | .error fault => .error fault
    | .ok (name, rest) =>
      have : rest.length < cs.length := by
        have := length_readParameter first
        have := inside ▸ length_skipGap cs
        grind
      let seen : Doctype := ⟨d.outside?, true, d.entities, d.parameters⟩
      match d.parameters.find? (·.1 == name) with
      | some (_, .text value) =>
        if _h : 0 < depth then
          match seen.readDeclarations (depth - 1) true value with
          | .error fault => .error fault
          | .ok (d, _) => d.readDeclarations depth nested rest
        else .error (.badEntity name)
      | _ => seen.readDeclarations depth nested rest
  | inner =>
    match first : d.readDeclaration inner with
    | .error fault => .error fault
    | .ok (d, rest) =>
      have : rest.length < cs.length :=
        Nat.lt_of_lt_of_le (length_readDeclaration first) (inside ▸ length_skipGap cs)
      d.readDeclarations depth nested rest
termination_by (depth, cs.length)

theorem Doctype.length_readDeclarations {depth : Nat} {nested : Bool} {d found : Doctype}
    {cs rest : List Char} (h : d.readDeclarations depth nested cs = .ok (found, rest)) :
    rest.length ≤ cs.length := by
  fun_induction Doctype.readDeclarations depth nested d cs with
  | case4 _ _ _ cs _ inside =>
    have := inside ▸ length_skipGap cs
    grind
  | _ => grind

/-- How deep references to entities may be nested. -/
def entityDepth : Nat := 40

/-- A document type, from after its keyword on. -/
def readDoctype (cs : List Char) : Except Fault (Doctype × List Char) := do
  let rest ← needGap cs
  let (_, rest) ← readName rest
  let (outside?, rest) ← readOutside? (skipGap rest)
  let d : Doctype := ⟨outside?, false, [], []⟩
  match skipGap rest with
  | '[' :: rest =>
    let (d, rest) ← d.readDeclarations entityDepth false rest
    let rest ← needMark ">" (skipGap rest)
    .ok (d, rest)
  | rest =>
    let rest ← needMark ">" rest
    .ok (d, rest)

theorem length_readDoctype {cs rest : List Char} {d : Doctype}
    (h : readDoctype cs = .ok (d, rest)) : rest.length < cs.length := by
  simp only [readDoctype, bind_eq_ok] at h
  obtain ⟨afterGap, hGap, ⟨name, afterName⟩, hName, ⟨outside?, afterOutside⟩, hOutside, h⟩ := h
  have := length_needGap hGap
  have := length_readName hName
  have := length_skipGap afterName
  have := length_readOutside? hOutside
  split at h
  · rename_i inside
    have := inside ▸ length_skipGap afterOutside
    simp only [bind_eq_ok] at h
    obtain ⟨⟨d, afterDeclarations⟩, hDeclarations, afterMark, hMark, h⟩ := h
    have := Doctype.length_readDeclarations hDeclarations
    have := length_skipGap afterDeclarations
    have := length_needMark hMark
    grind
  · have := length_skipGap afterOutside
    simp only [bind_eq_ok] at h
    obtain ⟨afterMark, hMark, h⟩ := h
    have := length_needMark hMark
    grind

/-! ### All tokens of a text -/

/-- The token that a less-than sign begins, from after that sign on. -/
def readMarked (cs : List Char) : Except Fault (Token × List Char) :=
  if "!--".toList.isPrefixOf cs then readComment (cs.drop 3)
  else if "![CDATA[".toList.isPrefixOf cs then readLiteral (cs.drop 8)
  else if "!DOCTYPE".toList.isPrefixOf cs then do
    let (d, rest) ← readDoctype (cs.drop 8)
    .ok (.doctype d, rest)
  else match cs with
    | '?' :: rest => readInstruction rest
    | '/' :: rest => readClosing rest
    | _ => readOpening cs

theorem length_readMarked {cs rest : List Char} {token : Token}
    (h : readMarked cs = .ok (token, rest)) : rest.length ≤ cs.length := by
  simp only [readMarked] at h
  split at h
  · have := length_readComment h
    grind
  split at h
  · have := length_readLiteral h
    grind
  split at h
  · simp only [bind_eq_ok] at h
    obtain ⟨⟨d, afterDoctype⟩, hDoctype, h⟩ := h
    have := length_readDoctype hDoctype
    grind
  split at h
  · have := length_readInstruction h
    grind
  · have := length_readClosing h
    grind
  · exact Nat.le_of_lt (length_readOpening h)

/-- The tokens of a text, in order. -/
def tokens (cs : List Char) : Except Fault (List Token) :=
  match cs with
  | [] => .ok []
  | '<' :: inner =>
    match first : readMarked inner with
    | .error fault => .error fault
    | .ok (token, rest) =>
      have : rest.length < inner.length + 1 := Nat.lt_succ_of_le (length_readMarked first)
      match tokens rest with
      | .error fault => .error fault
      | .ok more => .ok (token :: more)
  | c :: inner =>
    match readText (c :: inner.takeWhile (· != '<')) with
    | .error fault => .error fault
    | .ok run =>
      have := length_dropWhile_le (· != '<') inner
      match tokens (inner.dropWhile (· != '<')) with
      | .error fault => .error fault
      | .ok more => .ok (run ++ more)
termination_by cs.length
decreasing_by
  · exact this
  · exact Nat.lt_succ_of_le this

end ReleaseNotes.Markup
