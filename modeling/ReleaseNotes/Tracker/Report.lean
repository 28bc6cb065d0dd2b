import ReleaseNotes.Tracker.AttachmentId
import ReleaseNotes.Tracker.Issue
import ReleaseNotes.Tracker.Title

/-!
# Reports

Reading the issues of a tracker report. Every `item` of a report is an issue. Its
detailed note is the attachment with the name of notes and the highest identifier:
trackers keep every upload, so a corrected note is simply a later attachment of the
same name. A negative identifier never names a note.
-/

namespace ReleaseNotes.Tracker

open Markup

/-- The element with the key of an issue. -/
def keyLabel : String := "key"

/-- The element around the attachments of an issue. -/
def attachmentsLabel : String := "attachments"

/-- The attribute with the name of an attachment. -/
def nameLabel : String := "name"

/-- The later of the note found so far and an attachment with an identifier. -/
def laterNote (latest? : Option Int) (id : Int) : Option Int :=
  if id < 0 then latest?
  else match latest? with
    | none => some id
    | some latest => if latest < id then some id else some latest

/-- The latest of some attachments with the name of notes, or of the one found before. -/
def latestNote (noteFile : String) (latest? : Option Int) :
    List Node → Except InputFault (Option Int)
  | [] => .ok latest?
  | attachment :: rest =>
    if attachment.attribute? nameLabel == some noteFile then
      match readAttachmentId ((attachment.attribute? idLabel).getD "") with
      | .error fault => .error fault
      | .ok id => latestNote noteFile (laterNote latest? id) rest
    else latestNote noteFile latest? rest

/-- The identifier of the detailed note among the attachments of an item. -/
def latestNoteId? (item : Node) (noteFile : String) : Except InputFault (Option Int) :=
  match item.descendant? attachmentsLabel with
  | none => .ok none
  | some attachments => latestNote noteFile none (attachments.descendants attachmentLabel)

/-- The issue that an item describes. -/
def Issue.ofItem (item : Node) (noteFile : String) : Except InputFault Issue := do
  let key ← item.require keyLabel
  let title ← item.require titleLabel
  let title ← stripTitle title.directText
  let id? ← latestNoteId? item noteFile
  .ok ⟨key.directText, title, id?⟩

/-- The issues of a report, in document order. -/
def issues (report : Node) (noteFile : String) : Except InputFault (List Issue) :=
  (report.descendants itemLabel).mapM (Issue.ofItem · noteFile)

end ReleaseNotes.Tracker
