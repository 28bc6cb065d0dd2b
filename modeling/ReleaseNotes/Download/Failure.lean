import ReleaseNotes.Text.Quoted

/-!
# Failures of a download

A download may fail for many reasons, and one failure often leads to another: it has a cause, a
context in which it came up, a reason, or carries other failures along as something it says. So the
failures of a download form a graph, which may have cycles (`Failures`). A host that cannot be found
is somewhere behind a failure when it can be reached along those links (`Failures.isUnknownHost`).
-/

namespace ReleaseNotes

/-- What kind of failure it is. -/
inductive FailureKind where
  /-- There is no connection. -/
  | connection
  /-- The answer takes too long. -/
  | timeout
  /-- The answer says that something is wrong. -/
  | status
  /-- The answer leads from one address to the next without an end. -/
  | redirects
  /-- The address makes no sense. -/
  | address
  /-- The connection is not secure. -/
  | security
  /-- The answer breaks off. -/
  | brokenAnswer
  /-- The system does not know the host. -/
  | unknownHost
  /-- The name of the host leads nowhere. -/
  | unresolved
  /-- The system cannot do something. -/
  | system
  /-- The host turns the connection down. -/
  | refused
  /-- A value makes no sense. -/
  | value
  /-- Something is not as it should be. -/
  | state
  /-- Something is not in a table. -/
  | key
  /-- It has been tried too often. -/
  | retries
  /-- The other side does not keep to the rules. -/
  | protocol
  deriving DecidableEq, Repr

/-- The name of a kind of failure. -/
def FailureKind.label : FailureKind → String
  | .connection => "ConnectionError"
  | .timeout => "Timeout"
  | .status => "HTTPError"
  | .redirects => "TooManyRedirects"
  | .address => "InvalidURL"
  | .security => "SSLError"
  | .brokenAnswer => "ChunkedEncodingError"
  | .unknownHost => "gaierror"
  | .unresolved => "NameResolutionError"
  | .system => "OSError"
  | .refused => "ConnectionRefusedError"
  | .value => "ValueError"
  | .state => "RuntimeError"
  | .key => "KeyError"
  | .retries => "MaxRetryError"
  | .protocol => "ProtocolError"

/-- The kinds in order. -/
def FailureKind.all : List FailureKind :=
  [.connection, .timeout, .status, .redirects, .address, .security, .brokenAnswer, .unknownHost,
   .unresolved, .system, .refused, .value, .state, .key, .retries, .protocol]

/-- Whether a failure is one of a download, which is reported, and not one of the program. -/
def FailureKind.isDownload : FailureKind → Bool
  | .connection | .timeout | .status | .redirects | .address | .security | .brokenAnswer => true
  | _ => false

/-- Whether a failure is that of a host which cannot be found. -/
def FailureKind.isHost : FailureKind → Bool
  | .unknownHost | .unresolved => true
  | _ => false

/-- Whether a failure may carry the number of a fault of the system. -/
def FailureKind.isNumbered (k : FailureKind) : Bool :=
  k.isDownload || [.unknownHost, .system, .refused].contains k

/-- Something that a failure says. -/
inductive Said where
  /-- A text. -/
  | text (s : String)
  /-- A number. -/
  | number (n : Int)
  /-- Another failure, by its number. -/
  | failure (i : Nat)
  deriving DecidableEq, Repr

/-- A failure. -/
structure Failure where
  /-- The kind. -/
  kind : FailureKind
  /-- What it said when it came up. -/
  said : List Said
  /-- What was added to that later. -/
  added : List Said := []
  /-- The number of its cause. -/
  cause? : Option Nat := none
  /-- The number of the failure during which it came up. -/
  context? : Option Nat := none
  /-- The number of its reason. -/
  reason? : Option Nat := none
  deriving DecidableEq, Repr

/-- Failures that refer to each other by their numbers. -/
abbrev Failures := List Failure

/-- The number of a failure, if something said is one. -/
def Said.failure? : Said → Option Nat
  | .failure i => some i
  | _ => none

/-- Whether something said is a number. -/
def Said.isNumber : Said → Bool
  | .number _ => true
  | _ => false

/-- The names of faults of the system with the numbers that stand for them. -/
def systemNames : List (String × List Int) :=
  [("PermissionError", [1, 13]), ("FileNotFoundError", [2]), ("ProcessLookupError", [3]),
   ("InterruptedError", [4]), ("ChildProcessError", [10]), ("BlockingIOError", [11, 114, 115]),
   ("FileExistsError", [17]), ("NotADirectoryError", [20]), ("IsADirectoryError", [21]),
   ("BrokenPipeError", [32, 108]), ("ConnectionAbortedError", [103]),
   ("ConnectionResetError", [104]), ("TimeoutError", [110]), ("ConnectionRefusedError", [111])]

/-- The name of a failure: a fault of the system may have one of its own. -/
def Failure.name (f : Failure) : String :=
  match f.kind, f.said with
  | .system, .number n :: _ :: more =>
    if more.length ≤ 3 then ((systemNames.find? (·.2.contains n)).map Prod.fst).getD f.kind.label
    else f.kind.label
  | _, _ => f.kind.label

/-- The files that a failure of the system names after its number and its wording: one, or two with
something between them that does not matter. What stands there is no file if there is too much of
it, or if it is the count that a failure of something busy gives. -/
def Failure.files (f : Failure) : List Said :=
  match f.kind.isNumbered, f.said with
  | true, _ :: _ :: file :: more =>
    if 2 < more.length || (file.isNumber && f.name == "BlockingIOError") then []
    else file :: more.drop 1
  | _, _ => []

/-- What a failure keeps of what it said. One that names files keeps its number and its wording. -/
def Failure.kept (f : Failure) : List Said :=
  if f.files.isEmpty then f.said else f.said.take 2

/-- What a failure carries along. A failure of a name or of too many tries only carries a text. -/
def Failure.carried (f : Failure) : List Said :=
  match f.kind with
  | .unresolved | .retries => f.added
  | _ => f.kept ++ f.added

/-- The numbers of the failures that a failure is linked to. -/
def Failure.links (f : Failure) : List Nat :=
  f.cause?.toList ++ f.context?.toList ++ f.reason?.toList ++ f.carried.filterMap Said.failure?

/-- The numbers of the failures that the failure with a number is linked to. -/
def Failures.linksOf (g : Failures) (i : Nat) : List Nat :=
  (g[i]?.map Failure.links).getD []

/-- Whether the failure with a number is that of a host which cannot be found. -/
def Failures.isHostAt (g : Failures) (i : Nat) : Bool :=
  (g[i]?.map (·.kind.isHost)).getD false

/-- Whether a host that cannot be found is among the pending failures or can be reached from them
along those that have not been seen. -/
def Failures.search (g : Failures) (unseen pending : List Nat) : Bool :=
  match pending with
  | [] => false
  | i :: rest =>
    if _h : i ∈ unseen then
      g.isHostAt i || g.search (unseen.erase i) (g.linksOf i ++ rest)
    else g.search unseen rest
termination_by (unseen.length, pending.length)
decreasing_by
  · apply Prod.Lex.left
    rw [List.length_erase_of_mem _h]
    have := List.length_pos_of_mem _h
    omega
  · apply Prod.Lex.right
    simp

/-- Whether a host that cannot be found is behind the failure with a number. -/
def Failures.isUnknownHost (g : Failures) (i : Nat) : Bool :=
  g.search (List.range g.length) [i]

/-! ### Wording -/

/-- Some parts in parentheses; one alone has a comma after it. -/
def inParentheses : List String → String
  | [part] => "(" ++ part ++ ",)"
  | shown => "(" ++ ", ".intercalate shown ++ ")"

mutual

/-- Something said, as it is written among other things. -/
def Failures.shown (g : Failures) : Nat → Said → String
  | _, .text s => Text.quoted s
  | _, .number n => toString n
  | 0, .failure _ => "..."
  | fuel + 1, .failure i =>
    match g[i]? with
    | none => ""
    | some f =>
      let parts := (g.sayings fuel f).map (g.shown fuel)
      f.name ++ "(" ++ ", ".intercalate parts ++ ")"
termination_by fuel => (fuel, 1)

/-- What a failure says, with the text that a failure of a name or of too many tries puts
together. -/
def Failures.sayings (g : Failures) (fuel : Nat) (f : Failure) : List Said :=
  match f.kind, f.said with
  | .unresolved, [host, connection, reason] =>
    .text (g.written fuel connection ++ ": Failed to resolve '" ++ g.written fuel host ++ "' (" ++
      g.written fuel reason ++ ")") :: f.added
  | .retries, [pool, address, reason] =>
    .text (g.written fuel pool ++ ": Max retries exceeded with url: " ++ g.written fuel address ++
      " (Caused by " ++ g.shown fuel reason ++ ")") :: f.added
  | _, _ => f.kept ++ f.added
termination_by (fuel, 3)

/-- Something said, as it is written by itself. -/
def Failures.written (g : Failures) (fuel : Nat) (said : Said) : String :=
  match said, fuel with
  | .text s, _ => s
  | .number n, _ => toString n
  | .failure _, 0 => "..."
  | .failure i, fuel + 1 =>
    match g[i]? with
    | none => ""
    | some f =>
      match f.kind.isNumbered && f.said.length ≤ 5, f.said with
      | true, number :: wording :: _ =>
        "[Errno " ++ g.written fuel number ++ "] " ++ g.written fuel wording ++
          if f.files.isEmpty then "" else ": " ++ " -> ".intercalate (f.files.map (g.shown fuel))
      | _, _ =>
        match g.sayings fuel f with
        | [] => ""
        | [one] => if f.kind == .key then g.shown fuel one else g.written fuel one
        | several => inParentheses (several.map (g.shown fuel))
termination_by (fuel, 2)

end

/-- The wording of the failure with a number. -/
def Failures.message (g : Failures) (i : Nat) : String :=
  g.written (g.length + 1) (.failure i)

end ReleaseNotes
