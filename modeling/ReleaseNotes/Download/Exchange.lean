import ReleaseNotes.Download.Failure

/-!
# Exchanges with the network

What the network answers is a function of the address that is asked for (`Web`). Asking for an address, the
coming of a reply, its closing and the showing of a message happen one after another (`Happening`), and what has
happened before some work fails has happened (`Exchange`).
-/

namespace ReleaseNotes

/-- What a host answers. -/
structure Reply where
  /-- The number that says how it went. -/
  status : Int
  /-- The words for that. -/
  reason : String
  /-- What was asked for. -/
  content : List UInt8
  deriving DecidableEq, Repr

/-- What comes of asking for an address. -/
inductive Answer where
  /-- A reply. -/
  | reply (r : Reply)
  /-- The first of some failures. -/
  | failure (g : Failures)
  deriving Repr

/-- What comes of asking for every address. -/
abbrev Web := String → Answer

/-- A question to the network. -/
structure Request where
  /-- The address. -/
  url : String
  /-- How many seconds to wait for the answer. -/
  timeout? : Option Float
  deriving Repr

/-! ### Happenings -/

/-- What may happen while a note is fetched. -/
inductive Happening where
  /-- An address is asked for. Its reply may be had before all of its content has come. -/
  | asked (request : Request) (isStreamed : Bool)
  /-- A reply comes, and with it a connection that stays open. -/
  | opened
  /-- The connection of a reply is closed. -/
  | closed
  /-- A message is shown. -/
  | shown (line : String)

/-- What is asked for, if something is. -/
def Happening.question? : Happening → Option (Request × Bool)
  | .asked request isStreamed => some (request, isStreamed)
  | _ => none

/-- What is shown, if something is. -/
def Happening.line? : Happening → Option String
  | .shown line => some line
  | _ => none

/-- Whether a reply is closed. -/
def Happening.isClosed : Happening → Bool
  | .closed => true
  | _ => false

/-- What has been asked for. -/
def questions (happenings : List Happening) : List (Request × Bool) :=
  happenings.filterMap Happening.question?

/-- What has been shown. -/
def linesOf (happenings : List Happening) : List String :=
  happenings.filterMap Happening.line?

/-! ### Work -/

variable {ε δ α : Type}

/-- A part of fetching a note. What has happened before it fails has happened. -/
abbrev Exchange (ε α : Type) := ExceptT ε (StateM (List Happening)) α

/-- Something happens. -/
def happen (h : Happening) : Exchange ε PUnit :=
  modify (· ++ [h])

/-- Some work on a reply, which is closed whatever comes of the work. -/
def Exchange.thenClosing (work : Exchange ε α) : Exchange ε α := fun past =>
  let (result, now) := work.run.run past
  (result, now ++ [.closed])

/-- Some work, and what is done if it fails. -/
def Exchange.orElse (work : Exchange ε α) (handle : ε → Exchange δ α) : Exchange δ α := fun past =>
  match work.run.run past with
  | (.ok a, now) => (.ok a, now)
  | (.error e, now) => (handle e).run.run now

end ReleaseNotes
