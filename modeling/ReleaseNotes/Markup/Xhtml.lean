import ReleaseNotes.Markup.Html

/-!
# Writing pages

A node of a document whose type is that of a page (`Document.isPage`) is written as
XML with the habits of pages: void elements close with a space before the slash, all
others have an end tag, the root names the namespace of pages, a head that does not
say what the page is encoded in says so, and names and languages are repeated under
the attributes that newer readers look for.
-/

namespace ReleaseNotes.Markup.Xhtml

/-- The namespace of pages. -/
def pageUri : String := "http://www.w3.org/1999/xhtml"

/-- The elements that never have content. -/
def voidNames : List String :=
  ["area", "br", "base", "col", "hr", "img", "input", "link", "meta", "param"]

/-- Whether an element never has content. -/
def isVoid (t : Tag) : Bool :=
  voidNames.contains t.name.label &&
    match t.name.space? with
    | none => true
    | some space => space.short?.isNone && space.uri == pageUri

/-- The elements whose name is repeated as an identifier. -/
def namedElements : List String :=
  ["a", "p", "div", "img", "map", "applet", "form", "frame", "iframe"]

/-- The attribute in no namespace with this name. -/
def plain? (t : Tag) (label : String) : Option Attribute :=
  t.attributes.find? fun a => a.name == .plain label

/-- The value of an attribute as it is written. -/
def writtenValue (a : Attribute) : String :=
  String.join (a.pieces.map Piece.xml)

/-- An attribute; one that is a mere flag and has no value has its name for a value. -/
def writeAttribute (a : Attribute) : String :=
  if a.name.space?.isNone && a.value.isEmpty && Html.flagNames.contains (Html.lower a.name.label) &&
      !(["id", "name", "lang"].contains a.name.label) then
    " " ++ a.name.written ++ "=\"" ++ a.name.label ++ "\""
  else a.xml

/-- The attributes that are written in addition. -/
def writeRepeated (t : Tag) : String :=
  let name := match plain? t "name", plain? t "id" with
    | some a, none =>
      if namedElements.contains t.name.label then " id=\"" ++ writtenValue a ++ "\"" else ""
    | _, _ => ""
  let formal? := t.attributes.find? fun a =>
    a.name.label == "lang" && a.name.space?.any (·.short? == some "xml")
  let language := match plain? t "lang", formal? with
    | some a, none => " xml:lang=\"" ++ writtenValue a ++ "\""
    | none, some a => " lang=\"" ++ writtenValue a ++ "\""
    | _, _ => ""
  if t.attributes.isEmpty then "" else name ++ language

/-- A start tag without its closing mark. -/
def writeTag (t : Tag) : String :=
  let page :=
    if t.name == .plain "html" && t.declared.isEmpty then " xmlns=\"" ++ pageUri ++ "\"" else ""
  "<" ++ t.name.written ++ String.join (t.declared.map Namespace.xml) ++ page ++
    String.join (t.attributes.map writeAttribute) ++ writeRepeated t

/-- Whether a node says what the page is encoded in. -/
def saysEncoding (n : Node) : Bool :=
  n.isNamed "meta" && ((n.attribute? "http-equiv").map Html.lower) == some "content-type"

/-- What a head says of the encoding when nothing in it does. -/
def encodingMeta : String :=
  "<meta http-equiv=\"Content-Type\" content=\"text/html; charset=UTF-8\" />"

/-- What is written before the content of an element: the encoding, if the element is the
head of the root. -/
def opening (isUnderRoot : Bool) (t : Tag) (content : List Node) : String :=
  if isUnderRoot && t.name.label == "head" && !content.any saysEncoding then encodingMeta else ""

mutual

/-- A node. `path` holds the names of its ancestors, nearest first. -/
def write (path : List String) : Node → String
  | .element t content =>
    let added := opening (path == ["html"]) t content
    match content with
    | [] =>
      if isVoid t && added.isEmpty then writeTag t ++ " />"
      else writeTag t ++ ">" ++ added ++ t.ending
    | n :: rest =>
      let inner := t.name.label :: path
      writeTag t ++ ">" ++ added ++ write inner n ++ writeAll inner rest ++ t.ending
  | .text s => escaped escapeText s
  | .comment s => writeComment s
  | .instruction target data => "<?" ++ writeTarget target data ++ "?>"
  | .reference name => writeReference name

/-- Content. -/
def writeAll (path : List String) : List Node → String
  | [] => ""
  | n :: rest => write path n ++ writeAll path rest

end

end ReleaseNotes.Markup.Xhtml
