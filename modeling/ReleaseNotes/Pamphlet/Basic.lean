import ReleaseNotes.Files
import ReleaseNotes.Markup.Html
import ReleaseNotes.Markup.Move
import ReleaseNotes.Markup.Xml
import ReleaseNotes.Pamphlet.Element
import ReleaseNotes.Text.Case

/-!
# The pamphlet

A page with a body and, in the body, a table of contents. Everything in it is added at an end, and
what has been added is found again by its heading (`sectionPlace`). In the end the page is
written as a whole.

Besides the page there may be other trees, of elements that do not stand in it yet.
-/

namespace ReleaseNotes

open Markup

/-- A pamphlet: some trees, and where in them the page and its parts are. -/
structure Pamphlet where
  /-- The trees. -/
  trees : List Node := []
  /-- The place of the page, once it has been begun. -/
  root? : Option Place := none
  /-- The place of the body. -/
  body? : Option Place := none
  /-- The place of the table of contents. -/
  toc? : Option Place := none
  deriving Repr

/-- What goes wrong with a pamphlet. -/
inductive PamphletFault where
  /-- It has been begun before. -/
  | begun
  /-- It has not been begun. -/
  | notBegun
  /-- An element cannot be added. -/
  | edit (fault : EditFault)
  /-- There is no section with the name. -/
  | noSection (name : String)
  /-- There is no way to write it that has the name. -/
  | noMethod (name : String)
  /-- It cannot be written to the path. -/
  | unwritable (path : String) (fault : PathFault)
  deriving DecidableEq, Repr

/-- The wording of a fault. -/
def PamphletFault.message : PamphletFault → String
  | .begun => "Pamphlet has already been started."
  | .notBegun => "Pamphlet has not been started."
  | .edit _ => "Element cannot be added."
  | .noSection name => name
  | .noMethod name => "unknown output method " ++ Text.quoted name
  | .unwritable path fault =>
    "Unable to write pamphlet to " ++ path ++ ": " ++ fault.message (tidyPath path)

/-- A change to a pamphlet. What it has done before it fails stays done. -/
abbrev Building (α : Type) := ExceptT PamphletFault (StateM Pamphlet) α

/-- A change to the trees of a pamphlet. -/
def edit {α : Type} (change : Editing α) : Building α := do
  let p ← get
  let (result, trees) := change.run.run p.trees
  set { p with trees := trees }
  match result with
  | .ok a => return a
  | .error fault => throw (.edit fault)

/-- The place that stands for no node. -/
def nowhere : Place := []

/-- The place of the body, or no place. -/
def Pamphlet.body (p : Pamphlet) : Place :=
  p.body?.getD nowhere

/-- The place of the table of contents, or no place. -/
def Pamphlet.toc (p : Pamphlet) : Place :=
  p.toc?.getD nowhere

/-- The page. -/
def Pamphlet.page? (p : Pamphlet) : Option Node :=
  p.root?.bind (nodeAt? p.trees)

/-- Adds a tree for an element that does not stand in the page. -/
def addTree (n : Node) : Building Place := do
  let p ← get
  set { p with trees := p.trees ++ [n] }
  return [childCount p.trees]

/-- Begins the page: its title and its body. The place of the body. -/
def begin (title : String) : Building Place := do
  if (← get).root?.isSome then throw .begun
  let root ← addTree (emptyElement PageElement.page.label)
  modify fun p => { p with root? := some root }
  let element ← match textElement .title title with
    | .ok n => pure n
    | .error fault => throw (.edit fault)
  let _ ← edit (addNode root element)
  let body ← edit (addElement root .body)
  modify fun p => { p with body? := some body }
  return body

/-- Adds the table of contents at the end of the body. -/
def addToc : Building Place := do
  let toc ← edit (addList (← get).body)
  modify fun p => { p with toc? := some toc }
  return toc

/-- The place after the heading of a section, where its block stands. -/
def sectionPlace (name : String) (level : HeaderLevel) : Building Place := do
  let p ← get
  match p.root? with
  | none => throw (.edit .noHolder)
  | some root =>
    match headingPlace? p.trees root level name with
    | some heading => return heading.next
    | none => throw (.noSection name)

/-- Adds an item to a list that holds an element which already stands somewhere: its place, and where
every other place has gone. -/
def moveIntoItem (list n : Place) : Building (Place × (Place → Place)) := do
  let (item, follow) ← edit (addMovedItem list n)
  modify fun p =>
    { p with
      root? := p.root?.map follow
      body? := p.body?.map follow
      toc? := p.toc?.map follow }
  return (item, follow)

/-! ### Writing -/

/-- How the page is written. -/
inductive Method where
  /-- As a web page. -/
  | html
  /-- As an XML document. -/
  | xml
  /-- Only its text. -/
  | text
  deriving DecidableEq, Repr

/-- The way to write with a name, in any case. -/
def Method.ofName? (name : String) : Option Method :=
  match String.ofList (Text.lower name.toList) with
  | "html" => some .html
  | "xml" => some .xml
  | "text" => some .text
  | _ => none

/-- The line that says that a document is XML. -/
def xmlLine : String := "<?xml version='1.0' encoding='utf-8'?>\n"

mutual

/-- All text in a node, in order. -/
def wholeText : Node → String
  | .element _ content => wholeTextOfAll content
  | .text s => s
  | _ => ""

/-- All text in some content, in order. -/
def wholeTextOfAll : List Node → String
  | [] => ""
  | n :: rest => wholeText n ++ wholeTextOfAll rest

end

/-- The page as it is written, with the run of text after it. -/
def writePage (method : Method) (isIndented : Bool) (page : Node) (after : List Node) : String :=
  let newline := if isIndented then "\n" else ""
  match method with
  | .html =>
    Html.write isIndented none none page ++ Html.writeAll false none after ++ newline
  | .xml =>
    (if isIndented then page.xmlLines 0 else page.xml) ++ xmlOfAll after ++ newline
  | .text => wholeText page ++ wholeTextOfAll after

/-- The pamphlet as it is written in the way with a name. The name `xml` also asks for the line
that says so. -/
def Pamphlet.write (p : Pamphlet) (name : String) (isIndented : Bool) :
    Except PamphletFault String :=
  match p.root? with
  | none => .error .notBegun
  | some root =>
    match Method.ofName? name, takeAt p.trees root with
    | none, _ => .error (.noMethod name)
    | some method, page :: after =>
      .ok ((if name == "xml" then xmlLine else "") ++ writePage method isIndented page after)
    | some _, [] => .error .notBegun

/-- The files after the pamphlet is written to a path. They stay as they are if that fails. -/
def Pamphlet.save (p : Pamphlet) (files : Files) (path name : String) (isIndented : Bool) :
    Except PamphletFault Files :=
  match p.write name isIndented with
  | .error fault => .error fault
  | .ok s =>
    match files.write (tidyPath path) (Text.utf8 s.toList) with
    | .error fault => .error (.unwritable path fault)
    | .ok files => .ok files

end ReleaseNotes
