import ReleaseNotes.Data.Toml.Nested
import ReleaseNotes.Text.Utf8

/-!
# TOML documents

A document is read line by line into one table. A line gives a value to a key, or is a header:
the key of the table to which the lines after it belong, or, in double brackets, of a list to
which a new table is added. A table may be opened by one header only, and lists and tables that
were written as values stay as they are (`Draft`).
-/

namespace ReleaseNotes.Data.Toml

/-- What has been read of a document. -/
structure Draft where
  /-- The table of the whole document. -/
  table : Table
  /-- The key of the last header. -/
  header : List String
  /-- The keys of tables that no header may open and no line may lead through. -/
  opened : List (List String)
  /-- The keys of values at which, and below which, nothing may be added. -/
  closed : List (List String)
  /-- The keys that count as opened from the next header on. -/
  passed : List (List String)

/-- Whether nothing may be added at a key. -/
def Draft.isClosed (d : Draft) (key : List String) : Bool :=
  d.closed.any (·.isPrefixOf key)

/-- A document with a header for a table. -/
def Draft.openTable (d : Draft) (key : List String) : Except Fault Draft :=
  let opened := d.passed ++ d.opened
  if opened.contains key || d.isClosed key then .error (.malformed "Cannot declare a table twice")
  else match enterTable true some key d.table with
    | none => .error overwritten
    | some table => .ok ⟨table, key, key :: opened, d.closed, []⟩

/-- A table in which the list under a name has a new table at its end. -/
def growList? (name : String) (t : Table) : Option Table :=
  match Table.get? t name with
  | none => some (Table.put name (.list [.table []]) t)
  | some (.list items) => some (Table.put name (.list (items ++ [.table []])) t)
  | some _ => none

/-- A document with a header for a new table of a list. What was read of the tables before it in
the list says nothing about the new one. -/
def Draft.openItem (d : Draft) (key : List String) : Except Fault Draft :=
  if d.isClosed key then .error overwritten
  else
    let opened := (d.passed ++ d.opened).filter fun other => !key.isPrefixOf other
    let closed := d.closed.filter fun other => !key.isPrefixOf other
    match enterTable true (growList? (key.getLastD "")) key.dropLast d.table with
    | none => .error overwritten
    | some table => .ok ⟨table, key, key :: opened, closed, []⟩

/-- The keys of the tables on the way to the last part of a key. -/
def waypoints (header key : List String) : List (List String) :=
  (List.range (key.length - 1)).map fun i => header ++ key.take (i + 1)

/-- A document with a value given to a key below the last header. -/
def Draft.give (d : Draft) (key : List String) (v : Value) : Except Fault Draft :=
  let ways := waypoints d.header key
  let whole := d.header ++ key
  if ways.any d.opened.contains then .error (.malformed "Cannot redefine a namespace")
  else if d.isClosed whole.dropLast then .error overwritten
  else match enterTable true (addField? (whole.getLastD "") v) whole.dropLast d.table with
    | none => .error overwritten
    | some table =>
      let closed := if isContainer v then whole :: d.closed else d.closed
      .ok ⟨table, d.header, d.opened, closed, ways ++ d.passed⟩

/-- The key of a header from after its opening brackets on, and what follows its closing ones. -/
def readHeader (closing : List Char) (cs : List Char) : Except Fault (List String × List Char) :=
  match readKey (cs.dropWhile isSpace) with
  | .error fault => .error fault
  | .ok (key, rest) =>
    if closing.isPrefixOf rest then .ok (key, rest.drop closing.length)
    else .error (.malformed "Expected ']' at the end of a table declaration")

theorem length_readHeader {closing cs after : List Char} {key : List String}
    (h : readHeader closing cs = .ok (key, after)) : after.length ≤ cs.length := by
  have := (List.dropWhile_suffix (l := cs) isSpace).length_le
  rw [readHeader] at h
  split at h
  · cases h
  · next hkey =>
    have := length_readKey hkey
    grind

/-- What a line says about a document, and the rest of the line. -/
def readStatement (d : Draft) (cs : List Char) : Except Fault (Draft × List Char) :=
  match cs with
  | [] => .ok (d, [])
  | '[' :: '[' :: rest => do
    let (key, rest) ← readHeader [']', ']'] rest
    let d ← d.openItem key
    .ok (d, rest)
  | '[' :: rest => do
    let (key, rest) ← readHeader [']'] rest
    let d ← d.openTable key
    .ok (d, rest)
  | c :: _ =>
    if c == '\n' || c == '#' then .ok (d, cs)
    else if beginsKey c then do
      let (key, rest) ← readKey cs
      match rest with
      | '=' :: rest => do
        let (v, rest) ← readValue (2 * cs.length + 2) (rest.dropWhile isSpace)
        let d ← d.give key v
        .ok (d, rest)
      | _ => .error (.malformed "Expected '=' after a key in a key/value pair")
    else .error (.malformed "Invalid statement")

theorem length_readStatement {d d' : Draft} {cs after : List Char} (h : readStatement d cs = .ok (d', after)) :
    after.length ≤ cs.length := by
  rw [readStatement.eq_def] at h
  split at h
  · grind
  · obtain ⟨⟨key, rest⟩, hheader, d, -, he⟩ := by simpa only [bind_eq_ok] using h
    cases he
    have := length_readHeader hheader
    grind
  · obtain ⟨⟨key, rest⟩, hheader, d, -, he⟩ := by simpa only [bind_eq_ok] using h
    cases he
    have := length_readHeader hheader
    grind
  · split at h
    · grind
    split at h
    · obtain ⟨⟨key, rest⟩, hkey, h⟩ := bind_eq_ok.mp h
      have := length_readKey hkey
      dsimp only at h
      split at h
      · next more =>
        obtain ⟨⟨v, last⟩, hvalue, d, -, he⟩ := by simpa only [bind_eq_ok] using h
        cases he
        have := (List.dropWhile_suffix (l := more) isSpace).length_le
        have := (readsShorter _).value hvalue
        grind
      · cases h
    · cases h

/-- A document with one more line, and what follows the line. -/
def readLine (d : Draft) (cs : List Char) : Except Fault (Draft × List Char) := do
  let (d, rest) ← readStatement d (cs.dropWhile isSpace)
  let rest ← skipComment false (rest.dropWhile isSpace)
  match rest with
  | [] => .ok (d, [])
  | '\n' :: rest => .ok (d, rest)
  | _ => .error (.malformed "Expected newline or end of document after a statement")

theorem length_readLine {d d' : Draft} {c : Char} {cs after : List Char} (h : readLine d (c :: cs) = .ok (d', after)) :
    after.length ≤ cs.length := by
  obtain ⟨⟨d, rest⟩, hstatement, more, hcomment, h⟩ := by simpa only [readLine, bind_eq_ok] using h
  have := (List.dropWhile_suffix (l := c :: cs) isSpace).length_le
  have := length_readStatement hstatement
  have := (List.dropWhile_suffix (l := rest) isSpace).length_le
  have := length_skipComment hcomment
  split at h <;> grind

/-- The table that a document is, from a line on. -/
def readLines (d : Draft) (cs : List Char) : Except Fault Table :=
  match cs with
  | [] => .ok d.table
  | c :: more =>
    match line : readLine d (c :: more) with
    | .error fault => .error fault
    | .ok (d, rest) =>
      have : rest.length ≤ more.length := length_readLine line
      readLines d rest
termination_by cs.length

/-- A text in which no carriage return stands before a line end. -/
def dropReturns : List Char → List Char
  | '\r' :: '\n' :: rest => '\n' :: dropReturns rest
  | c :: rest => c :: dropReturns rest
  | [] => []

/-- The table that a document is. -/
def read (cs : List Char) : Except Fault Table :=
  readLines ⟨[], [], [], [], []⟩ (dropReturns cs)

end ReleaseNotes.Data.Toml
