import ReleaseNotes.Data.Check
import ReleaseNotes.Text.Blank
import ReleaseNotes.Text.Decimal

/-!
# Issues

An issue of the tracker, as the release notes know it, and the addresses that belong
to it: its public page, and the place from which its detailed note is downloaded.
-/

namespace ReleaseNotes.Tracker

/-- An issue read from a report. -/
structure Issue where
  /-- The key, such as `DERBY-2598`. -/
  key : String
  /-- The title without the key in front. -/
  title : String
  /-- The identifier of the latest detailed note, if there is one. -/
  noteId? : Option Int
  deriving DecidableEq, Repr

/-- The issue that some data describes. -/
def Issue.ofData (t : Data.Table) : Data.Checked Issue :=
  Data.Checked.both
    (Data.Checked.both
      ((t.required "key" Data.Value.asText).map Issue.mk)
      (t.required "title" Data.Value.asText))
    (t.defaulted "note_attachment_id" none (Data.Value.asOptional Data.Value.asInteger))

/-- Whether an issue has a detailed note. -/
def Issue.hasNote (issue : Issue) : Bool :=
  issue.noteId?.isSome

/-- The public page of an issue. -/
def Issue.pageUrl (issue : Issue) (browseUrl : String) : String :=
  Text.dropSlashes browseUrl ++ "/" ++ issue.key

/-- An identifier has too many digits to be written in an address. -/
structure LongId where
  /-- The identifier. -/
  id : Int
  deriving DecidableEq, Repr

/-- The address of the note with an identifier. -/
def noteAddress (attachmentUrl idText noteFile : String) : String :=
  Text.dropSlashes attachmentUrl ++ "/" ++ idText ++ "/" ++ noteFile

/-- The address of the detailed note, if there is one. -/
def Issue.noteUrl? (issue : Issue) (attachmentUrl noteFile : String) :
    Except LongId (Option String) :=
  match issue.noteId? with
  | none => .ok none
  | some id =>
    match Text.decimal? id with
    | some text => .ok (some (noteAddress attachmentUrl text noteFile))
    | none => .error ⟨id⟩

end ReleaseNotes.Tracker
