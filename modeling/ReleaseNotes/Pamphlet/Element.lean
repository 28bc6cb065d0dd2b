import ReleaseNotes.Markup.Move
import ReleaseNotes.Text.Decimal
import ReleaseNotes.Vocabulary

/-!
# Elements of the pamphlet

The elements that the pamphlet is made of, each made by itself or added under another one. An
element that holds a text which a document cannot hold is not made. Adding takes place step by
step, and what was added before a step fails stays.
-/

namespace ReleaseNotes

open Markup

/-! ### Elements by themselves -/

/-- An element that holds a text. -/
def textElement (e : PageElement) (s : String) : Except EditFault Node :=
  if isLegalText s then .ok (Node.withText e.label s) else .error .illegalText

/-- A text in bold. -/
def boldText (s : String) : Except EditFault Node :=
  textElement .bold s

/-- A text that links to an address. -/
def link (address s : String) : Except EditFault Node :=
  if isLegalText s && isLegalText address then
    .ok (.element (.plain PageElement.anchor.label [.plain "href" address]) [.text s])
  else .error .illegalText

/-- A text that links to the place with a name in the same document. -/
def localLink (name : String) (caption? : Option String) : Except EditFault Node :=
  link ("#" ++ name) (caption?.getD name)

/-! ### Adding elements -/

/-- An element without content. -/
def emptyElement (label : String) : Node :=
  .element (.plain label []) []

/-- Adds an element without content: its place. -/
def addElement (here : Place) (e : PageElement) : Editing Place :=
  addNode here (emptyElement e.label)

/-- Puts an element that was made by itself under another one. -/
def attach (here : Place) (n : Node) : Editing Place := do
  match nodeAt? (← get) here with
  | some _ => addNode here n
  | none => throw .noHolder

/-- Adds a list. -/
def addList (here : Place) : Editing Place :=
  addElement here .list

/-- Adds an item to a list that holds an element. -/
def addItem (list : Place) (n : Node) : Editing Place := do
  let item ← addElement list .item
  let _ ← addNode item n
  return item

/-- Adds an item to a list that holds an element which already stands somewhere: its place, and where
every other place has gone. -/
def addMovedItem (list n : Place) : Editing (Place × (Place → Place)) := do
  let item ← addElement list .item
  let target ← moveNode item n
  return (Place.afterMove n target item, Place.afterMove n target)

/-- The text between a label and what it is the label of. -/
def labelEnd : String := " - "

/-- Adds an item to a list that holds a label in bold and a text. -/
def addLabelled (list : Place) (label s : String) : Editing Place := do
  let item ← addElement list .item
  let bold ← boldText label
  if isLegalText s then
    changeHere item (Node.mapContent (· ++ [bold, .text (labelEnd ++ s)]))
    return item
  else throw .illegalText

/-- Adds a paragraph. -/
def addParagraph (here : Place) (s : String) : Editing Place := do
  let paragraph ← textElement .paragraph s
  attach here paragraph

/-- Adds a row to a table. -/
def addRow (table : Place) : Editing Place :=
  addElement table .row

/-- Adds a cell to a row. -/
def addCell (row : Place) : Editing Place :=
  addElement row .column

/-- Adds a cell that holds a text to a row. -/
def addTextCell (row : Place) (s : String) : Editing Place := do
  let cell ← addCell row
  if isLegalText s then
    changeHere cell (Node.mapContent (· ++ [.text s]))
    return cell
  else throw .illegalText

/-- Adds a line across the page. -/
def addLine (here : Place) : Editing Place :=
  addElement here .line

/-- Adds cells with labels in bold to a row. -/
def addHeadings (row : Place) : List String → Editing Unit
  | [] => return
  | heading :: rest => do
    let cell ← addCell row
    let bold ← boldText heading
    let _ ← addNode cell bold
    addHeadings row rest

/-- Adds a table with a border of some width and a row of headings. -/
def addTable (here : Place) (border : Int) (headings : List String) : Editing Place := do
  let table ← addElement here .table
  match Text.decimal? border with
  | none => throw .oversized
  | some width => do
    changeHere table (Node.addAttribute "border" width)
    let row ← addRow table
    addHeadings row headings
    return table

/-- Adds a heading, in which stands an anchor with the same name, and the block that belongs to it:
the place of the block. -/
def addHeader (here : Place) (level : HeaderLevel) (name : String) : Editing Place := do
  let header ← addNode here (emptyElement level.label)
  let anchor ← addElement header .anchor
  if isLegalText name then
    changeHere anchor (Node.addAttribute "name" name)
    changeHere header (Node.mapContent (· ++ [.text name]))
    addElement here .block
  else throw .illegalText

/-- Adds an entry for a section to some tables of contents. -/
def addEntries (name : String) (caption? : Option String) : List Place → Editing Unit
  | [] => return
  | toc :: rest => do
    let entry ← localLink name caption?
    let _ ← addItem toc entry
    addEntries name caption? rest

/-- Adds a section, after an entry for it in each of some tables of contents: the place of its
block. An entry has the name of the section for a caption if no other one is given. -/
def addSection (here : Place) (level : HeaderLevel) (name : String) (tocs : List Place)
    (caption? : Option String) : Editing Place := do
  addEntries name caption? tocs
  addHeader here level name

/-! ### Finding sections -/

/-- Whether an element is the heading of the section with a name: the first anchor directly in it has
that name. -/
def isHeading (name : String) (n : Node) : Bool :=
  match n.content.find? fun c => (c.tag?.map Tag.name) == some (.plain PageElement.anchor.label) with
  | some anchor => anchor.attribute? "name" == some name
  | none => false

/-- The place of the first heading of a section below a place. -/
def headingPlace? (content : List Node) (root : Place) (level : HeaderLevel) (name : String) :
    Option Place :=
  (placesBelow content root level.label).find? fun p =>
    ((nodeAt? content p).map (isHeading name)).getD false

end ReleaseNotes
