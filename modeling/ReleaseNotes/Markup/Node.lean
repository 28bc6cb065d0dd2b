import ReleaseNotes.Markup.Character
import ReleaseNotes.Text.Blank

/-!
# Nodes

A document is a tree with mixed content: the content of an element is a list of
nodes, some of them runs of text and the others elements, comments, processing
instructions and entity references. Two runs of text never stand side by side in
content that this library makes, since text is always added to a run that is
already there (`appendText`).

An element's name and those of its attributes carry the namespace declaration
they were read under, prefix and all. Everything that looks a node up by name
looks at the local part only (`Node.localName?`), so a document reads the same
under every choice of namespaces.
-/

namespace ReleaseNotes.Markup

/-- A namespace declaration: a prefix, or none for the default namespace, and the
name it stands for. -/
structure Namespace where
  /-- The prefix, absent in a declaration of the default namespace. -/
  short? : Option String
  /-- The name of the namespace. -/
  uri : String
  deriving DecidableEq, Repr

/-- A name: its local part and the namespace it is in, if any. -/
structure Name where
  /-- The declaration that puts the name in a namespace. -/
  space? : Option Namespace
  /-- The local part. -/
  label : String
  deriving DecidableEq, Repr

/-- The name in no namespace with the given local part. -/
def Name.plain (label : String) : Name :=
  ⟨none, label⟩

/-- The name as it is written in a tag, with its prefix. -/
def Name.written (n : Name) : String :=
  match n.space?.bind Namespace.short? with
  | some short => short ++ ":" ++ n.label
  | none => n.label

/-- The name with that of its namespace in braces in front, if it is in one. -/
def Name.braced (n : Name) : String :=
  match n.space? with
  | some space => "\x7b" ++ space.uri ++ "\x7d" ++ n.label
  | none => n.label

/-- What follows the last closing brace of a name in braces, or the whole of it. -/
def lastPart (braced : String) : String :=
  String.ofList (Text.afterLast '\x7d' braced.toList)

/-- A part of an attribute's value. -/
inductive Piece where
  /-- A run of characters. -/
  | chars (s : String)
  /-- A reference to an entity, with the text that the entity stands for. -/
  | reference (name : String) (meaning : String)
  deriving DecidableEq, Repr

/-- What a part of a value reads as. -/
def Piece.reading : Piece → String
  | .chars s => s
  | .reference _ meaning => meaning

/-- An attribute of an element. -/
structure Attribute where
  /-- The name. -/
  name : Name
  /-- The parts of the value, in order. -/
  pieces : List Piece
  deriving DecidableEq, Repr

/-- The attribute in no namespace whose value is a plain text. -/
def Attribute.plain (label value : String) : Attribute :=
  ⟨.plain label, [.chars value]⟩

/-- The value of an attribute, every reference replaced by what it stands for. -/
def Attribute.value (a : Attribute) : String :=
  String.join (a.pieces.map Piece.reading)

/-- All that an element's start tag says. -/
structure Tag where
  /-- The name of the element. -/
  name : Name
  /-- The namespace declarations made here, in order. -/
  declared : List Namespace
  /-- The attributes, in order. -/
  attributes : List Attribute
  deriving DecidableEq, Repr

/-- A tag with a plain name, no declarations and the given attributes. -/
def Tag.plain (label : String) (attributes : List Attribute) : Tag :=
  ⟨.plain label, [], attributes⟩

/-- The value of the first attribute in no namespace with this name. -/
def Tag.attribute? (t : Tag) (label : String) : Option String :=
  (t.attributes.find? fun a => a.name == .plain label).map Attribute.value

/-- A node of a document. -/
inductive Node where
  /-- An element: its start tag and its content. -/
  | element (tag : Tag) (content : List Node)
  /-- A run of text. -/
  | text (s : String)
  /-- A comment. -/
  | comment (s : String)
  /-- A processing instruction: its target and its data, empty if it has none. -/
  | instruction (target data : String)
  /-- A reference to an entity that is neither a character nor predefined. -/
  | reference (name : String)
  deriving Repr, Inhabited

/-! ### Looking at one node -/

/-- Whether a node is a run of text. -/
def Node.isText : Node → Bool
  | .text _ => true
  | _ => false

/-- The content of an element; other nodes have none. -/
def Node.content : Node → List Node
  | .element _ content => content
  | _ => []

/-- The start tag of an element. -/
def Node.tag? : Node → Option Tag
  | .element tag _ => some tag
  | _ => none

/-- The local part of an element's name; other nodes have no name. It is what follows the namespace where
the name is written with that in braces (`Node.localName?_eq_lastPart`). -/
def Node.localName? (n : Node) : Option String :=
  n.tag?.map (·.name.label)

/-- Whether a node is an element with this local name. -/
def Node.isNamed (label : String) (n : Node) : Bool :=
  n.localName? == some label

/-- The value of an element's attribute in no namespace. -/
def Node.attribute? (n : Node) (label : String) : Option String :=
  n.tag?.bind (·.attribute? label)

/-- The text of a text node, and nothing for other nodes. -/
def Node.ownText : Node → String
  | .text s => s
  | _ => ""

/-- The text that stands directly in an element, its runs joined in order. -/
def Node.directText (n : Node) : String :=
  String.join (n.content.map Node.ownText)

/-- The children of an element: its content without the runs of text. -/
def Node.children (n : Node) : List Node :=
  n.content.filter (!·.isText)

/-- An element with an attribute in no namespace added; a node that is no element stays as it
is. -/
def Node.addAttribute (label value : String) : Node → Node
  | .element tag content =>
    .element ⟨tag.name, tag.declared, tag.attributes ++ [.plain label value]⟩ content
  | n => n

/-! ### Descendants -/

mutual

/-- A node and everything below it, in document order. -/
def Node.family : Node → List Node
  | .element tag content => .element tag content :: familyOfAll content
  | .text s => [.text s]
  | .comment s => [.comment s]
  | .instruction target data => [.instruction target data]
  | .reference name => [.reference name]

/-- Every node of some content and everything below, in document order. -/
def familyOfAll : List Node → List Node
  | [] => []
  | n :: rest => n.family ++ familyOfAll rest

end

/-- The elements below a node that have this local name, in document order. -/
def Node.descendants (label : String) (n : Node) : List Node :=
  (familyOfAll n.content).filter (Node.isNamed label)

/-- The first element below a node that has this local name. -/
def Node.descendant? (label : String) (n : Node) : Option Node :=
  (familyOfAll n.content).find? (Node.isNamed label)

/-! ### Adding to content -/

/-- Content with a text added at its end. An empty text adds nothing; other text grows
the run that stands last, if one does. -/
def appendText (content : List Node) (s : String) : List Node :=
  if s.isEmpty then content
  else match content.getLast? with
    | some (.text t) => content.dropLast ++ [.text (t ++ s)]
    | _ => content ++ [.text s]

/-- Content followed by other content, a run of text at the seam being one run. -/
def appendContent (content : List Node) : List Node → List Node
  | .text s :: more => appendText content s ++ more
  | more => content ++ more

/-- The element with a plain name whose content is one run of text, which may be
empty. -/
def Node.withText (label s : String) : Node :=
  .element (.plain label []) [.text s]

end ReleaseNotes.Markup
