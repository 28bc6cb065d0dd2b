import ReleaseNotes.Input
import ReleaseNotes.Vocabulary

/-!
# The release summary

The document that is filled in by hand for a release. Each of its fields is the first
element with the field's name, wherever it stands; what a field says is the text directly
in it.
-/

namespace ReleaseNotes

open Markup

/-- A release summary. -/
structure Summary where
  /-- The root of the document. -/
  root : Node

/-- The element of a field. -/
def Summary.fragment (s : Summary) (field : SummaryField) : Except InputFault Node :=
  s.root.require field.label

/-- The text of a field. -/
def Summary.text (s : Summary) (field : SummaryField) : Except InputFault String :=
  (s.fragment field).map Node.directText

end ReleaseNotes
