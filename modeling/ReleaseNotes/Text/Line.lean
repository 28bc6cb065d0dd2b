/-!
# Line ends

A line ends in a line feed, a carriage return, or the one after the other.
-/

namespace ReleaseNotes.Text

/-- A text whose line ends are single line feeds. -/
def unifyLines : List Char → List Char
  | '\r' :: '\n' :: rest => '\n' :: unifyLines rest
  | '\r' :: rest => '\n' :: unifyLines rest
  | c :: rest => c :: unifyLines rest
  | [] => []

end ReleaseNotes.Text
