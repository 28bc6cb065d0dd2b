import ReleaseNotes.Markup.Node

/-!
# Writing XML

A node as XML text, either as it stands or laid out with one child on a line.

Writing as it stands loses nothing: what is written reads back as the same node,
an empty run of text apart. Layout puts a line feed and spaces around the children
of an element only if none of them is text or a reference to an entity, and leaves
everything below such an element as it stands.

A node that is written by itself also makes the declarations that were in scope
where it stood (`Node.inherit`).
-/

namespace ReleaseNotes.Markup

/-- A character of a text. -/
def escapeText (c : Char) : List Char :=
  match c with
  | '&' => "&amp;".toList
  | '<' => "&lt;".toList
  | '>' => "&gt;".toList
  | '\r' => "&#13;".toList
  | _ => [c]

/-- A character of an attribute's value. -/
def escapeValue (c : Char) : List Char :=
  match c with
  | '\x22' => "&quot;".toList
  | '\t' => "&#9;".toList
  | '\n' => "&#10;".toList
  | _ => escapeText c

/-- A text with its characters escaped. -/
def escaped (escape : Char → List Char) (s : String) : String :=
  String.ofList (s.toList.flatMap escape)

/-- A reference to an entity. -/
def writeReference (name : String) : String :=
  "&" ++ name ++ ";"

/-- A part of an attribute's value. -/
def Piece.xml : Piece → String
  | .chars s => escaped escapeValue s
  | .reference name _ => writeReference name

/-- An attribute, after the space that sets it off. -/
def Attribute.xml (a : Attribute) : String :=
  " " ++ a.name.written ++ "=\"" ++ String.join (a.pieces.map Piece.xml) ++ "\""

/-- A namespace declaration, after the space that sets it off. -/
def Namespace.xml (n : Namespace) : String :=
  let name := match n.short? with
    | some short => "xmlns:" ++ short
    | none => "xmlns"
  " " ++ name ++ "=\"" ++ escaped escapeValue n.uri ++ "\""

/-- The start tag without its closing mark. -/
def Tag.xml (t : Tag) : String :=
  "<" ++ t.name.written ++ String.join (t.declared.map Namespace.xml) ++
    String.join (t.attributes.map Attribute.xml)

/-- The end tag. -/
def Tag.ending (t : Tag) : String :=
  "</" ++ t.name.written ++ ">"

/-- A comment. -/
def writeComment (s : String) : String :=
  "<!--" ++ s ++ "-->"

/-- The target and the data of a processing instruction. -/
def writeTarget (target data : String) : String :=
  if data.isEmpty then target else target ++ " " ++ data

/-! ### As it stands -/

mutual

/-- A node as it stands. -/
def Node.xml : Node → String
  | .element tag [] => tag.xml ++ "/>"
  | .element tag (n :: rest) => tag.xml ++ ">" ++ n.xml ++ xmlOfAll rest ++ tag.ending
  | .text s => escaped escapeText s
  | .comment s => writeComment s
  | .instruction target data => "<?" ++ writeTarget target data ++ "?>"
  | .reference name => writeReference name

/-- Content as it stands. -/
def xmlOfAll : List Node → String
  | [] => ""
  | n :: rest => n.xml ++ xmlOfAll rest

end

/-! ### Laid out -/

/-- Whether a node keeps its siblings from being laid out. -/
def Node.isInline : Node → Bool
  | .text _ => true
  | .reference _ => true
  | _ => false

/-- How many levels are indented at most. -/
def indentLimit : Nat := 30

/-- The spaces at the start of a line: two for each level. -/
def indent (level : Nat) : String :=
  String.ofList (List.replicate (2 * min level indentLimit) ' ')

mutual

/-- A node laid out at a level. -/
def Node.xmlLines (level : Nat) : Node → String
  | .element tag [] => tag.xml ++ "/>"
  | .element tag (n :: rest) =>
    if (n :: rest).any Node.isInline then
      tag.xml ++ ">" ++ xmlOfAll (n :: rest) ++ tag.ending
    else
      tag.xml ++ ">\n" ++ indent (level + 1) ++ n.xmlLines (level + 1) ++ "\n" ++
        xmlLinesOfAll (level + 1) rest ++ indent level ++ tag.ending
  | .text s => escaped escapeText s
  | .comment s => writeComment s
  | .instruction target data => "<?" ++ writeTarget target data ++ "?>"
  | .reference name => writeReference name

/-- Nodes laid out at a level, each on a line of its own. -/
def xmlLinesOfAll (level : Nat) : List Node → String
  | [] => ""
  | n :: rest => indent level ++ n.xmlLines level ++ "\n" ++ xmlLinesOfAll level rest

end

/-! ### A node by itself -/

/-- The declarations of a tag, followed by those of its ancestors, nearest first, whose
prefixes are not declared yet. -/
def Tag.inherit (t : Tag) (ancestors : List Tag) : Tag :=
  let declared := (ancestors.flatMap Tag.declared).foldl
    (fun (known : List Namespace) n =>
      if known.any (·.short? == n.short?) then known else known ++ [n])
    t.declared
  ⟨t.name, declared, t.attributes⟩

/-- A node with the declarations that its ancestors make for it. -/
def Node.inherit (ancestors : List Tag) : Node → Node
  | .element tag content => .element (tag.inherit ancestors) content
  | n => n

end ReleaseNotes.Markup
