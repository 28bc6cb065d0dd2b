/-!
# Complaints

What can be wrong with data, and where. Data is checked as a whole: everything that is
wrong with it is reported at once, in the order in which its fields are declared
(`Checked.both`).
-/

namespace ReleaseNotes.Data

/-- What is wrong with a value. -/
inductive Trouble where
  /-- There is no value where one must be. -/
  | missing
  /-- The value is no text. -/
  | notText
  /-- The value is nothing that an integer can be read from. -/
  | notInteger
  /-- The text is no integer. -/
  | unreadableInteger
  /-- The number has a fraction. -/
  | fractional
  /-- The number is too large to be taken for an integer. -/
  | oversized
  /-- The number is not finite. -/
  | infinite
  /-- The value is nothing that a number can be read from. -/
  | notNumber
  /-- The text is no number. -/
  | unreadableNumber
  /-- The value is nothing that a truth value can be read from. -/
  | notSwitch
  /-- The number or text is no truth value. -/
  | unreadableSwitch
  /-- The value is no table. -/
  | notTable
  /-- The value is none of those that are possible. -/
  | notListed
  /-- The values of a table do not go together, for the reason given. -/
  | refused (reason : String)
  deriving DecidableEq, Repr

/-- The wording of what is wrong with a value. -/
def Trouble.message : Trouble → String
  | .missing => "Field required"
  | .notText => "Input should be a valid string"
  | .notInteger => "Input should be a valid integer"
  | .unreadableInteger =>
    "Input should be a valid integer, unable to parse string as an integer"
  | .fractional => "Input should be a valid integer, got a number with a fractional part"
  | .oversized => "Unable to parse input string as an integer, exceeded maximum size"
  | .infinite => "Input should be a finite number"
  | .notNumber => "Input should be a valid number"
  | .unreadableNumber => "Input should be a valid number, unable to parse string as a number"
  | .notSwitch => "Input should be a valid boolean"
  | .unreadableSwitch => "Input should be a valid boolean, unable to interpret input"
  | .notTable => "Input should be a valid dictionary"
  | .notListed => "Input should be one of the listed values"
  | .refused reason => "Value error, " ++ reason

/-- Something wrong with a value inside of some data. -/
structure Complaint where
  /-- The names that lead to the value, outermost first. -/
  path : List String
  /-- What is wrong with it. -/
  trouble : Trouble
  deriving DecidableEq, Repr

/-- A complaint in two lines. -/
def Complaint.message (c : Complaint) : String :=
  ".".intercalate c.path ++ "\n  " ++ c.trouble.message

/-- A value that was checked: all that is wrong with it, or what was read from it. -/
abbrev Checked (α : Type) := Except (List Complaint) α

/-- A value with which nothing is wrong. -/
def Checked.pure {α : Type} (a : α) : Checked α :=
  .ok a

/-- A function applied to a value, both of them checked. All that is wrong with either is
reported, the function's complaints first. -/
def Checked.both {α β : Type} (f : Checked (α → β)) (x : Checked α) : Checked β :=
  match f, x with
  | .ok f, .ok a => .ok (f a)
  | .ok _, .error complaints => .error complaints
  | .error complaints, .ok _ => .error complaints
  | .error complaints, .error more => .error (complaints ++ more)

/-- What was read at the end of a path. -/
def Checked.at {α : Type} (name : String) (x : Except Trouble α) : Checked α :=
  match x with
  | .ok a => .ok a
  | .error trouble => .error [⟨[name], trouble⟩]

/-- A check of a part of some data, under the name of the part. -/
def Checked.inside {α : Type} (name : String) (x : Checked α) : Checked α :=
  match x with
  | .ok a => .ok a
  | .error complaints => .error (complaints.map fun c => ⟨name :: c.path, c.trouble⟩)

end ReleaseNotes.Data
