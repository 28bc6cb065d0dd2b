/-!
# Data

Values as data formats know them: numbers, texts, moments in time, lists, and tables
whose entries keep their order.
-/

namespace ReleaseNotes.Data

/-- A value of a data format. -/
inductive Value where
  /-- The absence of a value. -/
  | null
  /-- A truth value. -/
  | bool (b : Bool)
  /-- An integer of any size. -/
  | int (n : Int)
  /-- A floating-point number. -/
  | float (x : Float)
  /-- A text. -/
  | text (s : String)
  /-- A date, a time of day, or both. -/
  | moment
  /-- A list. -/
  | list (items : List Value)
  /-- A table: names with their values, each name once. -/
  | table (entries : List (String × Value))
  deriving Repr, Inhabited

/-- The entries of a table. -/
abbrev Table := List (String × Value)

/-- The value under a name. -/
def Table.get? (t : Table) (name : String) : Option Value :=
  (t.find? fun e => e.1 == name).map Prod.snd

/-- A table with a value put under a name, in the place of the value there or else at the
end. -/
def Table.put (name : String) (v : Value) : Table → Table
  | [] => [(name, v)]
  | e :: rest => if e.1 == name then (name, v) :: rest else e :: Table.put name v rest

/-- Whether a value says something: it is not null, false, zero or empty. -/
def Value.isSet : Value → Bool
  | .null => false
  | .bool b => b
  | .int n => n != 0
  | .float x => x != 0
  | .text s => !s.isEmpty
  | .moment => true
  | .list items => !items.isEmpty
  | .table entries => !entries.isEmpty

end ReleaseNotes.Data
