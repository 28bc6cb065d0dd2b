import ReleaseNotes.Input
import ReleaseNotes.Text.Blank
import ReleaseNotes.Vocabulary

/-!
# Detailed notes

A detailed note is a page with a heading and, under it, a paragraph that sums up the
change. The summary of a note is the text directly in its first paragraph, on one line;
its details are all that its body holds.
-/

namespace ReleaseNotes.Tracker

open Markup

/-- What the detailed note of an issue lacks. -/
inductive NoteFault where
  /-- There is no paragraph. -/
  | noSummary (key : String) (cause : InputFault)
  /-- There is no body. -/
  | noBody (key : String) (cause : InputFault)
  deriving DecidableEq, Repr

/-- The wording of what a note lacks. -/
def NoteFault.message : NoteFault → String
  | .noSummary key cause => "Badly formatted summary for " ++ key ++ ": " ++ cause.message
  | .noBody key cause => "Badly formatted release note for " ++ key ++ ": " ++ cause.message

/-- The key of the issue with the note. -/
def NoteFault.key : NoteFault → String
  | .noSummary key _ => key
  | .noBody key _ => key

/-- What the note is found to lack. -/
def NoteFault.cause : NoteFault → InputFault
  | .noSummary _ cause => cause
  | .noBody _ cause => cause

/-- The summary of the note of the issue with a key. -/
def noteSummary (key : String) (note : Node) : Except NoteFault String :=
  match note.require PageElement.paragraph.label with
  | .ok paragraph => .ok (Text.joinWords paragraph.directText)
  | .error cause => .error (.noSummary key cause)

/-- The body of the note of the issue with a key. -/
def noteBody (key : String) (note : Node) : Except NoteFault Node :=
  match note.require PageElement.body.label with
  | .ok body => .ok body
  | .error cause => .error (.noBody key cause)

end ReleaseNotes.Tracker
