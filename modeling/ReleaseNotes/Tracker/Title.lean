import ReleaseNotes.Input
import ReleaseNotes.Text.Blank

/-!
# Titles

The title of an issue begins with the issue's key in brackets. What counts is what
follows the first closing bracket, without the one blank that usually separates the
two.
-/

namespace ReleaseNotes.Tracker

/-- A text without the one blank that it may begin with. -/
def dropBlank : List Char → List Char
  | c :: rest => if Text.isBlank c then rest else c :: rest
  | [] => []

/-- The title without the key in brackets that it begins with. -/
def stripTitle (title : String) : Except InputFault String :=
  match title.toList.dropWhile (· != ']') with
  | _ :: rest => .ok (String.ofList (dropBlank rest))
  | [] => .error (.unbracketedTitle title)

end ReleaseNotes.Tracker
