import ReleaseNotes.Markup.Document
import ReleaseNotes.Markup.Place
import ReleaseNotes.Markup.Xhtml

/-!
# Excerpts

A node of a document written by itself. It takes the declarations along that are in scope
where it stands. A document whose type is that of a page is written by the rules for pages.
-/

namespace ReleaseNotes.Markup

/-- The node at a place, with the declarations in scope there. -/
def excerpt? (content : List Node) (here : Place) : Option Node :=
  (nodeAt? content here).map (Node.inherit (tagsAround content here))

/-- The XML of the node at a place. -/
def xmlAt? (isPage : Bool) (content : List Node) (here : Place) : Option String :=
  (excerpt? content here).map fun n =>
    if isPage then Xhtml.write ((tagsAround content here).map (·.name.label)) n else n.xml

/-- The HTML of the node at a place. -/
def htmlAt? (content : List Node) (here : Place) : Option String :=
  (excerpt? content here).map (Html.write false none none)

end ReleaseNotes.Markup
