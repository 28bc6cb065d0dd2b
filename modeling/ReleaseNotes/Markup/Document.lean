import ReleaseNotes.Markup.Address
import ReleaseNotes.Markup.Doctype
import ReleaseNotes.Markup.Encoding

/-!
# Documents

From the tokens of a text to its tree: tags are matched, names are put in their
namespaces, and references are held against the declarations of the document
type. The tree is that of the root element; what stands before and after it is
checked and dropped.

Some breaches of the rules for namespaces and entities do not stop the reading.
They are noted on the way, and the notes decide at the end whether the document
is refused (`verdict`): a document is accepted if the last note is a mere remark,
or if every breach is a reference to an entity that may be declared elsewhere.
-/

namespace ReleaseNotes.Markup

/-- Something noted while a document is read. -/
inductive Notice where
  /-- A remark that breaks no rule. -/
  | remark
  /-- A breach of the rules for namespaces. -/
  | breach (fault : Fault)
  /-- A reference to an entity that may be declared elsewhere. -/
  | undeclared (name : String)
  deriving Repr

/-- The breach in some notices, if there is one. -/
def breach? (notices : List Notice) : Option Fault :=
  notices.findSome? fun notice =>
    match notice with
    | .breach fault => some fault
    | _ => none

/-- Why a document with these notices is refused, if it is. -/
def verdict (notices : List Notice) : Option Fault :=
  match notices.getLast? with
  | none => none
  | some .remark => none
  | some _ => breach? notices

/-! ### Entities -/

/-- What a document says about entities. -/
structure Entities where
  /-- The document type. -/
  doctype : Doctype
  /-- Whether an entity that is not declared here may be declared elsewhere. -/
  mayBeElsewhere : Bool
  deriving Repr

/-- The text that a reference in a value stands for, references nested to a depth. -/
def Entities.meaning (e : Entities) : Nat → String → Except Fault (String × List Notice)
  | 0, name => .error (.badEntity name)
  | depth + 1, name =>
    match e.doctype.entity? name with
    | none =>
      if e.mayBeElsewhere then .ok ("", [.undeclared name]) else .error (.undeclaredEntity name)
    | some (.elsewhere _) => .error (.badEntity name)
    | some (.text value) =>
      if value.contains '<' then .error (.illegal "the start of a tag")
      else do
        let letters ← readLetters none value
        letters.foldrM
          (fun letter found =>
            match letter with
            | .plain c => .ok (String.singleton c ++ found.1, found.2)
            | .coded c => .ok (String.singleton c ++ found.1, found.2)
            | .entity inner => do
              let (text, notices) ← e.meaning depth inner
              .ok (text ++ found.1, notices ++ found.2))
          ("", [])

/-- The parts of a value, every reference with what it stands for. -/
def Entities.explain (e : Entities) (pieces : List Piece) :
    Except Fault (List Piece × List Notice) :=
  pieces.foldrM
    (fun piece found =>
      match piece with
      | .chars s => .ok (.chars s :: found.1, found.2)
      | .reference name _ => do
        let (text, notices) ← e.meaning entityDepth name
        .ok (.reference name text :: found.1, notices ++ found.2))
    ([], [])

/-- Checks that the text of an entity is proper content: its tags match, with those in
`opened` still to be closed, and so does the text of every entity it refers to. The check
of one such entity is `check`. -/
def checkTokens (e : Entities) (check : String → Except Fault (List Notice)) :
    List String → List Token → Except Fault (List Notice)
  | [], [] => .ok []
  | name :: _, [] => .error (.unclosed name)
  | opened, .opening name attributes closed :: rest => do
    let here ← attributes.foldrM
      (fun written found => do
        let (_, notices) ← e.explain written.2
        .ok (notices ++ found))
      []
    let more ← checkTokens e check (if closed then opened else name :: opened) rest
    .ok (here ++ more)
  | [], .closing name :: _ => .error (.mismatched "" name)
  | opened :: outer, .closing name :: rest =>
    if opened == name then checkTokens e check outer rest else .error (.mismatched opened name)
  | opened, .reference name :: rest => do
    let here ← check name
    let more ← checkTokens e check opened rest
    .ok (here ++ more)
  | _, .doctype _ :: _ => .error (.illegal "a document type")
  | opened, _ :: rest => checkTokens e check opened rest

/-- Checks a reference to an entity in content, references nested to a depth. -/
def Entities.check (e : Entities) : Nat → String → Except Fault (List Notice)
  | 0, name => .error (.badEntity name)
  | depth + 1, name =>
    match e.doctype.entity? name with
    | none => if e.mayBeElsewhere then .ok [.undeclared name] else .error (.undeclaredEntity name)
    | some (.elsewhere isText) => if isText then .ok [] else .error (.badEntity name)
    | some (.text value) => do
      let found ← tokens value
      checkTokens e (e.check depth) [] found

/-! ### Namespaces -/

/-- The namespace of the names that the format itself gives a meaning. -/
def xmlUri : String := "http://www.w3.org/XML/1998/namespace"

/-- The namespace of namespace declarations. -/
def xmlnsUri : String := "http://www.w3.org/2000/xmlns/"

/-- The declaration that is in scope everywhere. -/
def xmlNamespace : Namespace := ⟨some "xml", xmlUri⟩

/-- A written name split into its prefix and its local part. A name whose parts are not
names themselves has no prefix, and breaks the rules. -/
def splitName (name : String) : (Option String × String) × List Notice :=
  match name.toList.span (· != ':') with
  | (short, ':' :: label) =>
    if short.isEmpty || label.contains ':' || !(label.head?.map isNameStart).getD false then
      ((none, name), [.breach (.badNamespace name)])
    else ((some (String.ofList short), String.ofList label), [])
  | _ => ((none, name), [])

/-- The nearest declaration of a prefix, or of the default namespace. -/
def declaration? (scope : List (List Namespace)) (short? : Option String) : Option Namespace :=
  scope.findSome? fun declared => declared.find? (·.short? == short?)

/-- The namespace that a prefix stands for. -/
def spaceOf? (scope : List (List Namespace)) (short : String) : Option Namespace :=
  if short == "xml" then some xmlNamespace
  else declaration? scope (some short)

/-- What is noted about the address in a declaration of the default namespace. -/
def defaultNotices (uri : String) : List Notice :=
  if uri.isEmpty then []
  else if !Address.isValid uri.toList then [.breach (.badNamespace "xmlns")]
  else if !Address.isAbsolute uri.toList then [.remark]
  else []

/-- Reads a declaration of the default namespace. -/
def declareDefault (uri : String) : Option Namespace × List Notice :=
  if uri == xmlUri then (none, [.breach (.badNamespace "xmlns")])
  else if uri == xmlnsUri then (none, defaultNotices uri ++ [.breach (.badNamespace "xmlns")])
  else (some ⟨none, uri⟩, defaultNotices uri)

/-- Reads the declaration of a prefix. -/
def declareShort (short uri : String) : Option Namespace × List Notice :=
  let refused : Option Namespace × List Notice := (none, [.breach (.badNamespace short)])
  if short == "xml" then if uri == xmlUri then (none, []) else refused
  else if uri == xmlUri || short == "xmlns" || uri == xmlnsUri || uri.isEmpty then refused
  else if Address.isValid uri.toList then (some ⟨some short, uri⟩, [])
  else (some ⟨some short, uri⟩, [.breach (.badNamespace short)])

/-- Reads an attribute as a namespace declaration, if it is one. -/
def declare? (name : String) (pieces : List Piece) : Option (Option Namespace × List Notice) :=
  let uri := String.join (pieces.map Piece.reading)
  if name == "xmlns" then some (declareDefault uri)
  else match (splitName name).1 with
    | (some "xmlns", short) => some (declareShort short uri)
    | _ => none

/-- Puts the name of an attribute in its namespace. -/
def resolveAttribute (scope : List (List Namespace)) (name : String) : Name × List Notice :=
  match splitName name with
  | ((none, label), notices) => (⟨none, label⟩, notices)
  | ((some short, label), notices) =>
    match spaceOf? scope short with
    | some space => (⟨some space, label⟩, notices)
    | none => (⟨none, name⟩, notices ++ [.breach (.badNamespace name)])

/-- Puts the name of an element in its namespace. -/
def resolveElement (scope : List (List Namespace)) (name : String) : Name × List Notice :=
  match splitName name with
  | ((some short, label), notices) =>
    match spaceOf? scope short with
    | some space => (⟨some space, label⟩, notices)
    | none => (⟨none, name⟩, notices ++ [.breach (.badNamespace name)])
  | ((none, label), notices) =>
    match declaration? scope none with
    | some space => (⟨if space.uri.isEmpty then none else some space, label⟩, notices)
    | none => (⟨none, label⟩, notices)

/-- The first name that occurs twice in a list. -/
def firstRepeated? {α : Type} [BEq α] : List α → Option α
  | [] => none
  | x :: rest => if rest.contains x then some x else firstRepeated? rest

/-- What makes two attributes of one element the same: the namespace and the local part. -/
def Name.identity (n : Name) : Option String × String :=
  (n.space?.map Namespace.uri, n.label)

/-- Makes the tag that is written with this name and these attributes where the
declarations of `scope` hold, nearest first. -/
def resolveTag (e : Entities) (scope : List (List Namespace)) (name : String)
    (written : List (String × List Piece)) : Except Fault (Tag × List Notice) :=
  match firstRepeated? (written.map Prod.fst) with
  | some label => .error (.repeatedAttribute label)
  | none => do
    let explained ← written.mapM fun (label, raw) => do
      let (pieces, notices) ← e.explain raw
      .ok (label, pieces, notices)
    let declarations := explained.filterMap fun (label, pieces, _) => declare? label pieces
    let declared := declarations.filterMap Prod.fst
    let inner := declared :: scope
    let others := explained.filter fun (label, pieces, _) => (declare? label pieces).isNone
    let resolved := others.map fun (label, pieces, _) => (resolveAttribute inner label, pieces)
    let (elementName, elementNotices) := resolveElement inner name
    let attributes := resolved.map fun ((label, _), pieces) => Attribute.mk label pieces
    let repeated := match firstRepeated? (attributes.map (·.name.identity)) with
      | some (_, label) => [Notice.breach (.repeatedAttribute label)]
      | none => []
    .ok (⟨elementName, declared, attributes⟩,
      (explained.map fun (_, _, notices) => notices).flatten ++
        (declarations.map Prod.snd).flatten ++ elementNotices ++
        (resolved.map fun ((_, notices), _) => notices).flatten ++ repeated)

/-- What is noted about the target of a processing instruction. -/
def targetNotices (target : String) : List Notice :=
  let key := target.map Char.toLower
  let reserved : List Notice :=
    if key == "xml" then [.breach (.badNamespace target)]
    else if key.startsWith "xml" && !(["xml-stylesheet", "xml-model"].contains target) then [.remark]
    else []
  if target.contains ':' && key != "xml" then reserved ++ [.breach (.badNamespace target)]
  else reserved

/-! ### The tree -/

/-- An element whose end tag is still to come. -/
structure Opened where
  /-- The name as written, which the end tag must repeat. -/
  written : String
  /-- The start tag. -/
  tag : Tag
  /-- The content so far, newest first. -/
  before : List Node

/-- Content, newest first, with a run of text added. -/
def pushText (before : List Node) (s : String) : List Node :=
  match before with
  | .text t :: older => .text (t ++ s) :: older
  | _ => .text s :: before

/-- How deep elements may be nested. -/
def nestingLimit : Nat := 256

/-- Reads the content of the opened elements, innermost first, and what follows the last
of them. Notices are held newest first. -/
def assemble (e : Entities) :
    List Opened → List Notice → List Token → Except Fault (Node × List Notice × List Token)
  | [], _, _ => .error .empty
  | o :: _, _, [] => .error (.unclosed o.written)
  | o :: outer, noted, token :: rest =>
    match token with
    | .chars s _ => assemble e (⟨o.written, o.tag, pushText o.before s⟩ :: outer) noted rest
    | .comment s => assemble e (⟨o.written, o.tag, .comment s :: o.before⟩ :: outer) noted rest
    | .instruction target data =>
      assemble e (⟨o.written, o.tag, .instruction target data :: o.before⟩ :: outer)
        ((targetNotices target).reverse ++ noted) rest
    | .reference name => do
      let notices ← e.check entityDepth name
      assemble e (⟨o.written, o.tag, .reference name :: o.before⟩ :: outer)
        (notices.reverse ++ noted) rest
    | .doctype _ => .error (.illegal "a document type")
    | .opening name attributes closed =>
      if nestingLimit ≤ outer.length + 1 then .error .tooDeep
      else do
        let scope := (o :: outer).map (·.tag.declared)
        let (tag, notices) ← resolveTag e scope name attributes
        let noted := notices.reverse ++ noted
        if closed then
          assemble e (⟨o.written, o.tag, .element tag [] :: o.before⟩ :: outer) noted rest
        else assemble e (⟨name, tag, []⟩ :: o :: outer) noted rest
    | .closing name =>
      if o.written == name then
        let node := Node.element o.tag o.before.reverse
        match outer with
        | [] => .ok (node, noted, rest)
        | parent :: further =>
          assemble e (⟨parent.written, parent.tag, node :: parent.before⟩ :: further) noted rest
      else .error (.mismatched o.written name)

/-- A document: its root element, and whether its type is that of a page, which is written
by rules of its own. -/
structure Document where
  /-- The root element. -/
  root : Node
  /-- Whether the document type is one of those of pages. -/
  isPage : Bool
  deriving Repr

/-- The public names of the document types of pages. -/
def pageTitles : List String :=
  ["-//W3C//DTD XHTML 1.0 Strict//EN", "-//W3C//DTD XHTML 1.0 Frameset//EN",
   "-//W3C//DTD XHTML 1.0 Transitional//EN"]

/-- The addresses of the document types of pages. -/
def pageAddresses : List String :=
  ["http://www.w3.org/TR/xhtml1/DTD/xhtml1-strict.dtd",
   "http://www.w3.org/TR/xhtml1/DTD/xhtml1-frameset.dtd",
   "http://www.w3.org/TR/xhtml1/DTD/xhtml1-transitional.dtd"]

/-- Whether a document type is one of those of pages. -/
def Doctype.isPage (d : Doctype) : Bool :=
  match d.outside? with
  | some (title?, address) => title?.any pageTitles.contains || pageAddresses.contains address
  | none => false

/-- Whether a token may stand outside the root element. -/
def isOutside : Token → Bool
  | .chars s asIs => asIs && s.toList.all isGap
  | .comment _ => true
  | .instruction _ _ => true
  | _ => false

/-- What is noted about a token outside the root element. -/
def outsideNotices : Token → List Notice
  | .instruction target _ => targetNotices target
  | _ => []

/-- The document type before the root element, the notices so far, and the tokens from
the root element on. -/
def readProlog (d? : Option Doctype) (noted : List Notice) :
    List Token → Except Fault (Doctype × List Notice × List Token)
  | [] => .error .empty
  | token :: rest =>
    match token, d? with
    | .doctype d, none => readProlog (some d) noted rest
    | .opening _ _ _, _ => .ok (d?.getD .absent, noted, token :: rest)
    | _, _ =>
      if isOutside token then readProlog d? ((outsideNotices token).reverse ++ noted) rest
      else .error (.expected "the root element")

/-- The document that a text is. -/
def Document.ofChars (cs : List Char) : Except Fault Document := do
  let (declaration, body) ← readDeclaration cs
  let found ← tokens body
  let (d, noted, rest) ← readProlog none [] found
  let e : Entities :=
    ⟨d, !declaration.isStandalone && (d.outside?.isSome || d.refersOutside)⟩
  match rest with
  | .opening name attributes closed :: rest => do
    let (tag, notices) ← resolveTag e [] name attributes
    let noted := notices.reverse ++ noted
    let (root, noted, rest) ←
      if closed then .ok (.element tag [], noted, rest)
      else assemble e [⟨name, tag, []⟩] noted rest
    if rest.all isOutside then
      match verdict (noted.reverse ++ (rest.map outsideNotices).flatten) with
      | some fault => .error fault
      | none => .ok ⟨root, d.isPage⟩
    else .error .trailing
  | _ => .error .empty

/-- The document that octets are. Octets that are not text are a fault of their own only
where nothing else is wrong. -/
def Document.read (octets : List UInt8) : Except Fault Document := do
  let (cs, isDamaged) ← decode octets
  let document ← Document.ofChars cs
  if isDamaged then .error .undecodable else .ok document

end ReleaseNotes.Markup
