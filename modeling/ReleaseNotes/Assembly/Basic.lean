import ReleaseNotes.Download.Fetch
import ReleaseNotes.Pamphlet.Basic
import ReleaseNotes.Summary
import ReleaseNotes.Tracker.Note
import ReleaseNotes.Tracker.Report

/-!
# The assembly of a pamphlet

A pamphlet is assembled from three documents (`Sources`) by a plan that says how (`Plan`). What has
been done so far is a value (`Progress`), and a part of the work is a change to it (`Assembling`).
Work that fails leaves what it has done until then.
-/

namespace ReleaseNotes

open Markup

/-- The documents that a pamphlet is assembled from. -/
structure Sources where
  /-- The summary of the release. -/
  summary : Summary
  /-- The report of the fixed bugs. -/
  bugs : Node
  /-- The report of the issues with detailed notes. -/
  notes : Node

/-- How a pamphlet is assembled. -/
structure Plan where
  /-- The settings. -/
  settings : Settings
  /-- How the detailed note of an issue is fetched. -/
  fetch : Tracker.Issue → Fetching
  /-- Whether every step and every issue is shown. -/
  isTalkative : Bool := false

/-- What has been done so far. -/
structure Progress where
  /-- The pamphlet. -/
  pamphlet : Pamphlet := {}
  /-- The issues without a detailed note. -/
  missing : List Tracker.Issue := []
  /-- What the network has been asked for. -/
  requests : List Request := []
  /-- What has been shown as a result. -/
  shown : String := ""
  /-- What has been shown about the work. -/
  remarks : String := ""
  /-- The files. -/
  files : Files := {}

/-- Why the assembly fails. -/
inductive AssemblyFault where
  /-- Something is wrong with one of the documents. -/
  | input (fault : InputFault)
  /-- A sentence makes no sense. -/
  | template (fault : Template.Fault)
  /-- Something is wrong with the pamphlet. -/
  | pamphlet (fault : PamphletFault)
  /-- A detailed note lacks something. -/
  | note (fault : Tracker.NoteFault)
  /-- A detailed note cannot be had. -/
  | network (fault : NetworkFault)
  /-- Fetching a detailed note comes to no result. -/
  | fetch (fault : FetchFault)
  /-- An identifier has too many digits to be shown. -/
  | longId (fault : Tracker.LongId)
  /-- A message cannot be shown. -/
  | tag (fault : Terminal.TagFault)
  deriving DecidableEq, Repr

/-- The name of sentences in messages about their templates. -/
def sentenceName : String := "template"

/-- The wording of a fault that is reported, and nothing for any other fault. -/
def AssemblyFault.report? : AssemblyFault → Option String
  | .input fault => some fault.message
  | .note fault => some fault.message
  | .network fault => some fault.message
  | .pamphlet fault =>
    match fault with
    | .begun | .notBegun | .unwritable _ _ => some fault.message
    | .edit _ | .noSection _ | .noMethod _ => none
  | .template fault =>
    match fault with
    | .malformed _ | .refused _ | .undefined _ | .undeclared _ _ => some (fault.message sentenceName)
    | .unknownHelper | .mismatched | .notIterable | .zeroDivision | .unfit | .tooLarge => none
  | .fetch _ | .longId _ | .tag _ => none

/-- What may help against a fault. -/
def AssemblyFault.hint? : AssemblyFault → Option String
  | .network fault => fault.hint?
  | _ => none

/-- A part of the assembly. What it has done before it fails stays done. -/
abbrev Assembling (α : Type) := ExceptT AssemblyFault (StateM Progress) α

/-- Goes on with a result, or fails for the reason that there is none. -/
def orFail {ε α : Type} (fault : ε → AssemblyFault) : Except ε α → Assembling α
  | .ok a => return a
  | .error e => throw (fault e)

/-- A change to the pamphlet. -/
def onPamphlet {α : Type} (change : Building α) : Assembling α := do
  let p ← get
  let (result, pamphlet) := change.run.run p.pamphlet
  set { p with pamphlet := pamphlet }
  orFail .pamphlet result

/-- A change to the trees of the pamphlet. -/
def onTrees {α : Type} (change : Editing α) : Assembling α :=
  onPamphlet (edit change)

/-- Shows a message as a result. -/
def showLine (s : String) : Assembling Unit := do
  let line ← orFail .tag (Terminal.message s)
  modify fun p => { p with shown := p.shown ++ line }

/-- Shows a message about the work. -/
def remark (s : String) : Assembling Unit := do
  let line ← orFail .tag (Terminal.message s)
  modify fun p => { p with remarks := p.remarks ++ line }

/-- A message that is dimmed. -/
def dimmed (s : String) : String :=
  "[dim]" ++ s ++ "[/dim]"

/-! ### Sentences -/

/-- What the names in every sentence stand for. -/
def sentenceContext (product release previous : String) : Template.Context :=
  [(productName, .plain product), (releaseName, .plain release), (previousName, .plain previous)]

/-- What a sentence says with the names that it may use. -/
def Plan.sentence (plan : Plan) (sources : Sources) (template : String)
    (more : Template.Context) : Assembling String := do
  let release ← orFail .input (sources.summary.text .releaseId)
  let previous ← orFail .input (sources.summary.text .previousReleaseId)
  orFail .template (plan.settings.language.render template
    (sentenceContext plan.settings.wording.product release previous ++ more))

/-! ### Reports -/

/-- The line that shows an issue. -/
def Tracker.Issue.line (issue : Tracker.Issue) : Except Tracker.LongId String :=
  let line (note : String) : String :=
    "  " ++ dimmed (Terminal.escaped issue.key ++ ": " ++ Terminal.escaped issue.title ++
      " (" ++ note ++ ")")
  match issue.noteId? with
  | none => .ok (line "no note")
  | some id =>
    match Text.decimal? id with
    | some text => .ok (line ("note #" ++ text))
    | none => .error ⟨id⟩

/-- The issue that an item describes, which is shown. -/
def readShownItem (noteFile : String) (item : Node) : Assembling Tracker.Issue := do
  let issue ← orFail .input (Tracker.Issue.ofItem item noteFile)
  let line ← orFail .longId issue.line
  showLine line
  return issue

/-- The issues of a report, which are shown if asked for. -/
def readReport (report : Node) (noteFile : String) (isTalkative : Bool) :
    Assembling (List Tracker.Issue) :=
  if isTalkative then (report.descendants itemLabel).mapM (readShownItem noteFile)
  else orFail .input (Tracker.issues report noteFile)

end ReleaseNotes
