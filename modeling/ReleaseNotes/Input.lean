import ReleaseNotes.Files
import ReleaseNotes.Markup.Document

/-!
# Input documents

What can be wrong with a document that a run is given, and the two things every
reader of such a document does: taking it from a file, and looking up an element
that must be there.

Elements are looked up by local name among all descendants, so neither the
namespaces of a document nor the wrappers around an element matter.
-/

namespace ReleaseNotes

open Markup

/-- Why a document cannot be taken from a file. -/
inductive ReadFault where
  /-- The path leads to no file. -/
  | path (fault : PathFault)
  /-- The octets of the file are not text. -/
  | undecodable
  deriving DecidableEq, Repr

/-- The wording of the reason why a file cannot be read. -/
def ReadFault.message (path : String) : ReadFault → String
  | .path fault => fault.message path
  | .undecodable => Fault.undecodable.message

/-- What is wrong with an input document. -/
inductive InputFault where
  /-- An element lacks a descendant that it must have. -/
  | missingChild (label parent : String)
  /-- The title of an issue does not begin with the issue's key in brackets. -/
  | unbracketedTitle (title : String)
  /-- The identifier of an attachment is no number. -/
  | badAttachmentId (text : String)
  /-- A file does not hold a well-formed document. -/
  | unparsable (path : String) (fault : Fault)
  /-- A file cannot be read. -/
  | unreadable (path : String) (fault : ReadFault)
  deriving DecidableEq, Repr

/-- The element in which an attachment is described. -/
def attachmentLabel : String := "attachment"

/-- The element of an issue. -/
def itemLabel : String := "item"

/-- The element with the title of an issue. -/
def titleLabel : String := "title"

/-- The attribute with the identifier of an attachment. -/
def idLabel : String := "id"

/-- The wording of what is wrong, the underlying cause last if there is one. -/
def InputFault.message : InputFault → String
  | .missingChild label parent =>
    "Could not find child element '" ++ label ++ "' in parent element '" ++ parent ++ "'."
  | .unbracketedTitle title =>
    "Issue title '" ++ title ++ "' does not start with a bracketed tracker id."
  | .badAttachmentId text => "Invalid attachment id '" ++ text ++ "'."
  | .unparsable path fault => "Unable to parse " ++ path ++ ": " ++ fault.message
  | .unreadable path fault => "Unable to read " ++ path ++ ": " ++ fault.message path

/-- The element or attribute that is missing or malformed. -/
def InputFault.field? : InputFault → Option String
  | .missingChild label _ => some label
  | .unbracketedTitle _ => some titleLabel
  | .badAttachmentId _ => some idLabel
  | .unparsable _ _ => none
  | .unreadable _ _ => none

/-- The element in which it should stand. -/
def InputFault.parent? : InputFault → Option String
  | .missingChild _ parent => some parent
  | .unbracketedTitle _ => some itemLabel
  | .badAttachmentId _ => some attachmentLabel
  | .unparsable _ _ => none
  | .unreadable _ _ => none

/-- The first element below a node that has this local name, which must be there. -/
def Markup.Node.require (n : Node) (label : String) : Except InputFault Node :=
  match n.descendant? label with
  | some found => .ok found
  | none => .error (.missingChild label (n.localName?.getD ""))

/-- The document in a file. -/
def Files.document (files : Files) (path : String) : Except InputFault Document :=
  match files.read path with
  | .error fault => .error (.unreadable path (.path fault))
  | .ok octets =>
    match Document.read octets with
    | .ok document => .ok document
    | .error .undecodable => .error (.unreadable path .undecodable)
    | .error fault => .error (.unparsable path fault)

end ReleaseNotes
