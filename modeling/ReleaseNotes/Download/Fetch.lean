import ReleaseNotes.Download.Exchange
import ReleaseNotes.Download.Host
import ReleaseNotes.Markup.Document
import ReleaseNotes.Settings.Basic
import ReleaseNotes.Terminal.Line
import ReleaseNotes.Tracker.Issue

/-!
# Fetching release notes

The detailed note of an issue is downloaded from the address that its identifier leads to, and read
as a document (`TrackerSettings.exchange`). An issue without a note asks the network for nothing. A reply is
closed whatever comes of reading it. A download that fails is reported with the issue and, if the host
cannot be found, with a hint, which is also shown at once. `fetch` is the summary of what happens.
-/

namespace ReleaseNotes

/-- Why a note cannot be had. -/
inductive NoteTrouble where
  /-- It is no document. -/
  | unreadable (fault : Markup.Fault)
  /-- There is no such reply. -/
  | failed (kind : FailureKind) (wording : String)
  deriving DecidableEq, Repr

/-- The wording of why a note cannot be had. -/
def NoteTrouble.message : NoteTrouble → String
  | .unreadable fault => fault.message
  | .failed _ wording => wording

/-- A note that cannot be had. -/
structure NetworkFault where
  /-- The key of the issue. -/
  key : String
  /-- Why the note cannot be had. -/
  trouble : NoteTrouble
  /-- What may help. -/
  hint? : Option String
  deriving DecidableEq, Repr

/-- The wording of a fault. -/
def NetworkFault.message (f : NetworkFault) : String :=
  "Unable to read or parse release note for " ++ f.key ++ ": " ++ f.trouble.message

/-- Why fetching comes to an end without a result. -/
inductive FetchFault where
  /-- The identifier has too many digits to be written. -/
  | longId
  /-- The host of the address makes no sense. -/
  | host (fault : HostFault)
  /-- The hint cannot be shown. -/
  | hint (fault : Terminal.TagFault)
  /-- Something fails that is no download. -/
  | stopped (failure : Failure) (wording : String)
  deriving DecidableEq, Repr

/-- What comes of fetching a note. -/
inductive Fetched where
  /-- The issue has no note. -/
  | absent
  /-- The note. -/
  | note (d : Markup.Document)
  /-- The note cannot be had. -/
  | failed (fault : NetworkFault)
  deriving Repr

/-- The note, if there is one, or why it cannot be had. -/
def Fetched.note? : Fetched → Except NetworkFault (Option Markup.Document)
  | .absent => .ok none
  | .note d => .ok (some d)
  | .failed fault => .error fault

/-- All that fetching a note does. -/
structure Fetching where
  /-- What comes of it. -/
  result : Except FetchFault Fetched
  /-- What was asked for. -/
  request? : Option Request := none
  /-- Whether there was a reply, which is closed by now. -/
  hasReply : Bool := false
  /-- What was shown. -/
  shown : String := ""

/-- The wording of a reply that says that something is wrong. -/
def Reply.wrong? (r : Reply) (url : String) : Option String :=
  let wording (side : String) : String :=
    toString r.status ++ " " ++ side ++ " Error: " ++ r.reason ++ " for url: " ++ url
  if 400 ≤ r.status && r.status < 500 then some (wording "Client")
  else if 500 ≤ r.status && r.status < 600 then some (wording "Server")
  else none

/-- What may help against a host that cannot be found. -/
def hostHint (host? : Option String) : String :=
  "Unknown host '" ++ host?.getD "None" ++ "'. Can you ping this host from a shell window? " ++
    "Check your network connection before running the generator again."

/-! ### The exchange -/

/-- Why a download comes to nothing. -/
inductive DownloadTrouble where
  /-- The first of some failures has come up. -/
  | failures (g : Failures)
  /-- What has come is no document. -/
  | unreadable (fault : Markup.Fault)

/-- The failure that says that a reply is wrong. -/
def wrongReply (wording : String) : Failures :=
  [{ kind := .status, said := [.text wording] }]

/-- Asks for an address. The reply stays open. -/
def ask (web : Web) (request : Request) : Exchange DownloadTrouble Reply := do
  happen (.asked request true)
  match web request.url with
  | .failure g => throw (.failures g)
  | .reply r =>
    happen .opened
    return r

/-- The document in a reply, unless the reply says that something is wrong. -/
def readReply (r : Reply) (url : String) : Exchange DownloadTrouble Markup.Document := do
  match r.wrong? url with
  | some wording => throw (.failures (wrongReply wording))
  | none =>
    match Markup.Document.read r.content with
    | .ok d => return d
    | .error fault => throw (.unreadable fault)

/-- Downloads a document. -/
def download (web : Web) (request : Request) : Exchange DownloadTrouble Markup.Document := do
  let r ← ask web request
  Exchange.thenClosing (readReply r request.url)

/-- The failure where nothing can be reached. -/
def noConnection : Failure :=
  ⟨.connection, [.text "there is no connection"], [], none, none, none⟩

/-- The first of some failures. -/
def Failures.first (g : Failures) : Failure :=
  g.head?.getD noConnection

/-- Why a note cannot be had, after some failures. -/
def Failures.trouble (g : Failures) : NoteTrouble :=
  .failed g.first.kind (g.message 0)

/-- Shows what may help against a host that cannot be found. -/
def showHint (url : String) : Exchange FetchFault String :=
  match host? url with
  | .error fault => throw (.host fault)
  | .ok host? =>
    match Terminal.message (Terminal.inLook "yellow" (hostHint host?)) with
    | .error fault => throw (.hint fault)
    | .ok line => do
      happen (.shown line)
      return hostHint host?

/-- What comes of a download that has come to nothing. Failures that are none of a download are not
reported. -/
def explain (key url : String) : DownloadTrouble → Exchange FetchFault Fetched
  | .unreadable fault => return .failed ⟨key, .unreadable fault, none⟩
  | .failures g => do
    if !g.first.kind.isDownload then throw (.stopped g.first (g.message 0))
    if g.isUnknownHost 0 then
      let hint ← showHint url
      return .failed ⟨key, g.trouble, some hint⟩
    return .failed ⟨key, g.trouble, none⟩

/-- What happens while the note of an issue is fetched. -/
def TrackerSettings.exchange (t : TrackerSettings) (web : Web) (issue : Tracker.Issue) :
    Exchange FetchFault Fetched :=
  match issue.noteUrl? t.attachments t.noteFilename with
  | .error _ => throw .longId
  | .ok none => return .absent
  | .ok (some url) => (Fetched.note <$> download web ⟨url, t.timeout?⟩).orElse (explain issue.key url)

/-- All that comes of fetching the note of an issue: the result, and what has happened. -/
def TrackerSettings.exchanged (t : TrackerSettings) (web : Web) (issue : Tracker.Issue) :
    Except FetchFault Fetched × List Happening :=
  (t.exchange web issue).run.run []

/-- The summary of what comes of fetching a note. -/
def summaryOf (exchanged : Except FetchFault Fetched × List Happening) : Fetching :=
  { result := exchanged.1
    request? := (questions exchanged.2).head?.map Prod.fst
    hasReply := exchanged.2.any Happening.isClosed
    shown := String.join (linesOf exchanged.2) }

/-- Fetches the note of an issue. -/
def fetch (t : TrackerSettings) (web : Web) (issue : Tracker.Issue) : Fetching :=
  summaryOf (t.exchanged web issue)

end ReleaseNotes
