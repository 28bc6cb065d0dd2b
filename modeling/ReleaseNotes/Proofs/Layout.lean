import ReleaseNotes.Pamphlet.Element

/-!
# The layout of the page

The finished elements that a page consists of, each with all that stands in it.
-/

namespace ReleaseNotes.Layout

open Markup

/-- An element of the page with some content. -/
def holder (e : PageElement) (content : List Node) : Node :=
  .element (.plain e.label []) content

/-- A page with a title and a body. -/
def page (title : String) (body : List Node) : Node :=
  holder .page [holder .title [.text title], holder .body body]

/-- A text that links to an address. -/
def linked (address s : String) : Node :=
  .element (.plain PageElement.anchor.label [.plain "href" address]) [.text s]

/-- An entry of a table of contents: a link to the anchor with a name. -/
def entry (name caption : String) : Node :=
  holder .item [linked ("#" ++ name) caption]

/-- Entries of a table of contents, each with a name and a caption. -/
def entries (l : List (String × String)) : List Node :=
  l.map fun e => entry e.1 e.2

/-- A heading, in which an anchor with its text for a name stands before the text. -/
def heading (level : HeaderLevel) (name : String) : Node :=
  .element (.plain level.label [])
    [.element (.plain PageElement.anchor.label [.plain "name" name]) [], .text name]

/-- A heading and the block that belongs to it. -/
def headed (level : HeaderLevel) (name : String) (content : List Node) : List Node :=
  [heading level name, holder .block content]

/-- A table with a border, a row of headings in bold, and more rows. -/
def table (border : String) (headings : List String) (rows : List Node) : Node :=
  .element (.plain PageElement.table.label [.plain "border" border])
    (holder .row (headings.map fun h => holder .column [holder .bold [.text h]]) :: rows)

/-- The row of a bug: a link to its page, and its title. -/
def bugRow (address key title : String) : Node :=
  holder .row [holder .column [linked address key], holder .column [.text title]]

/-- An item of a list: a label in bold and what it is the label of. -/
def labelled (label s : String) : Node :=
  holder .item [holder .bold [.text label], .text (labelEnd ++ s)]

/-- A paragraph. -/
def paragraph (s : String) : Node :=
  holder .paragraph [.text s]

end ReleaseNotes.Layout
