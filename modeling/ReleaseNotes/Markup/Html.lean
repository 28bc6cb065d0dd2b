import ReleaseNotes.Markup.Xml

/-!
# Writing HTML

A node as HTML text, either as it stands or with line feeds between blocks.

Some elements never have content and are written without an end tag; a list item
without content has no end tag either. Some attributes are written as their bare
name. A script and a style sheet are written raw. The values of attributes that hold
an address have every octet that an address must not hold written as an escape.
All of this applies by an element's name in any case, and to elements in no
namespace.
-/

namespace ReleaseNotes.Markup.Html

/-- The elements that never have content. -/
def voidNames : List String :=
  ["area", "base", "basefont", "br", "col", "frame", "hr", "img", "input", "isindex", "link",
   "meta", "param"]

/-- The elements that stand on lines of their own. -/
def blockNames : List String :=
  ["address", "area", "base", "blockquote", "body", "caption", "center", "col", "colgroup", "dd",
   "dir", "div", "dl", "dt", "fieldset", "form", "frame", "frameset", "h1", "h2", "h3", "h4", "h5",
   "h6", "head", "hr", "html", "isindex", "legend", "li", "link", "menu", "meta", "noframes",
   "noscript", "ol", "optgroup", "option", "p", "param", "pre", "style", "table", "tbody", "td",
   "tfoot", "th", "thead", "title", "tr", "ul"]

/-- The attributes that are written as their bare name. -/
def flagNames : List String :=
  ["checked", "compact", "declare", "defer", "disabled", "ismap", "multiple", "nohref", "noresize",
   "noshade", "nowrap", "readonly", "selected"]

/-- A name in lower case. -/
def lower (name : String) : String :=
  name.map Char.toLower

/-- Whether an element is in no namespace and has one of these names. -/
def isOneOf (names : List String) (t : Tag) : Bool :=
  t.name.space?.isNone && names.contains (lower t.name.label)

/-! ### Attributes -/

/-- A character of a value, quotes and gaps left as they are. -/
def escapeQuoted (c : Char) : List Char :=
  escapeText c

/-- The octets of an address that stand for themselves. -/
def isAddressOctet (b : UInt8) : Bool :=
  0x20 < b && b < 0x7F

/-- An octet of an address: itself, or a percent sign and two hexadecimal digits. -/
def escapeOctet (b : UInt8) : List Char :=
  if isAddressOctet b then [Char.ofNat b.toNat]
  else
    let digit (n : Nat) : Char := if n < 10 then Char.ofNat (48 + n) else Char.ofNat (55 + n)
    ['%', digit (b.toNat / 16), digit (b.toNat % 16)]

/-- An address without the gap at its start and with its octets escaped. -/
def escapeAddress (s : String) : String :=
  String.ofList
    (((s.toList.dropWhile isGap).flatMap String.utf8EncodeChar).flatMap escapeOctet)

/-- A character of a value between double quotes. -/
def escapeQuote (c : Char) : List Char :=
  if c == '\x22' then "&quot;".toList else [c]

/-- A value in quotes: single ones if it holds a double quote and no single one, and else
double ones, with any double quote in it escaped. -/
def inQuotes (s : String) : String :=
  if s.toList.contains '\x22' then
    if s.toList.contains '\x27' then "\"" ++ escaped escapeQuote s ++ "\""
    else "\x27" ++ s ++ "\x27"
  else "\"" ++ s ++ "\""

/-- Whether an attribute holds an address. -/
def isAddress (t : Tag) (a : Attribute) : Bool :=
  t.name.space?.isNone && a.name.space?.isNone &&
    (["href", "action", "src"].contains (lower a.name.label) ||
      (lower a.name.label == "name" && lower t.name.label == "a"))

/-- A part of a value. -/
def writePiece : Piece → String
  | .chars s => escaped escapeQuoted s
  | .reference name _ => writeReference name

/-- An attribute of an element, after the space that sets it off. -/
def writeAttribute (t : Tag) (a : Attribute) : String :=
  let value := String.join (a.pieces.map writePiece)
  " " ++ a.name.written ++
    (if flagNames.contains (lower a.name.label) then ""
    else "=" ++ inQuotes (if isAddress t a then escapeAddress value else value))

/-- A start tag. -/
def writeTag (t : Tag) : String :=
  "<" ++ t.name.written ++ String.join (t.declared.map Namespace.xml) ++
    String.join (t.attributes.map (writeAttribute t)) ++ ">"

/-! ### Nodes -/

/-- Whether the text directly in an element with this name is written raw. -/
def isRaw (name? : Option String) : Bool :=
  name?.any fun name => lower name == "script" || lower name == "style"

/-- Whether a name begins with the letter that keeps line feeds out. -/
def isTight (name : String) : Bool :=
  "p".toList.isPrefixOf name.toList

/-- The line feed after the start tag of an element with this content. -/
def afterStart (pretty : Bool) (t : Tag) : List Node → String
  | first :: _ :: _ =>
    if pretty && isOneOf blockNames t && !first.isInline && !isTight t.name.label then "\n" else ""
  | _ => ""

/-- The line feed before the end tag of an element with this content. -/
def beforeEnd (pretty : Bool) (t : Tag) (content : List Node) : String :=
  match content.getLast? with
  | some last =>
    if pretty && isOneOf blockNames t && 2 ≤ content.length && !last.isInline &&
        !isTight t.name.label then "\n"
    else ""
  | none => ""

/-- The line feed after a whole element. -/
def afterAll (pretty : Bool) (t : Tag) (parent? : Option String) (next? : Option Node) : String :=
  match parent?, next? with
  | some parent, some next =>
    if pretty && isOneOf blockNames t && !next.isInline && !isTight parent then "\n" else ""
  | _, _ => ""

mutual

/-- A node, given the name of its parent and the node that follows it. -/
def write (pretty : Bool) (parent? : Option String) (next? : Option Node) : Node → String
  | .element t content =>
    let inner :=
      if isOneOf voidNames t then ""
      else match content with
        | [] => if isOneOf ["li"] t then "" else t.ending
        | n :: rest =>
          afterStart pretty t (n :: rest) ++
            write pretty (some t.name.label) rest.head? n ++
            writeAll pretty (some t.name.label) rest ++
            beforeEnd pretty t (n :: rest) ++ t.ending
    writeTag t ++ inner ++ afterAll pretty t parent? next?
  | .text s => if isRaw parent? then s else escaped escapeText s
  | .comment s => writeComment s
  | .instruction target data => "<?" ++ writeTarget target data ++ ">"
  | .reference name => writeReference name

/-- The content of an element with the given name. -/
def writeAll (pretty : Bool) (parent? : Option String) : List Node → String
  | [] => ""
  | n :: rest => write pretty parent? rest.head? n ++ writeAll pretty parent? rest

end

end ReleaseNotes.Markup.Html
