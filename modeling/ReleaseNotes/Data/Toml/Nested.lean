import ReleaseNotes.Data.Toml.Scalar

/-!
# Values of TOML

A value is a text, a number, a truth value, a moment, a list, or a table in braces. Between the
items of a list and the entries of such a table lines may end and comments may stand.
-/

namespace ReleaseNotes.Data.Toml

/-- What follows the rest of a comment on a line, if there is one. -/
def skipComment (isInside : Bool) : List Char → Except Fault (List Char)
  | [] => .ok []
  | c :: rest =>
    if isInside then
      if c == '\n' then .ok (c :: rest)
      else if isControl c then .error illegal
      else skipComment true rest
    else if c == '#' then skipComment true rest
    else .ok (c :: rest)

theorem length_skipComment {isInside : Bool} {cs after : List Char} (h : skipComment isInside cs = .ok after) :
    after.length ≤ cs.length := by
  fun_induction skipComment isInside cs <;> grind

/-- What follows white space, line ends and comments. -/
def skipGaps (isInside : Bool) : List Char → Except Fault (List Char)
  | [] => .ok []
  | c :: rest =>
    if isInside then
      if c == '\n' then skipGaps false rest
      else if isControl c then .error illegal
      else skipGaps true rest
    else if c == '#' then skipGaps true rest
    else if isGap c then skipGaps false rest
    else .ok (c :: rest)

theorem length_skipGaps {isInside : Bool} {cs after : List Char} (h : skipGaps isInside cs = .ok after) :
    after.length ≤ cs.length := by
  fun_induction skipGaps isInside cs <;> grind

/-- Changes the table at the end of a path from a table, making those on the way that are not
there. The way may lead into the last table of a list if `throughLists` says so. -/
def enterTable (throughLists : Bool) (change : Table → Option Table) :
    List String → Table → Option Table
  | [], t => change t
  | name :: path, t =>
    let put (inner : Table) (wrap : Value → Value) : Option Table :=
      (enterTable throughLists change path inner).map fun inner =>
        Table.put name (wrap (.table inner)) t
    match Table.get? t name with
    | none => put [] id
    | some (.table inner) => put inner id
    | some (.list items) =>
      match throughLists, items.getLast? with
      | true, some (.table inner) => put inner fun last => .list (items.dropLast ++ [last])
      | _, _ => none
    | some _ => none

/-- A table with a new entry. -/
def addField? (name : String) (v : Value) (t : Table) : Option Table :=
  if (Table.get? t name).isSome then none else some (Table.put name v t)

/-- Whether a value is a list or a table. -/
def isContainer : Value → Bool
  | .list _ => true
  | .table _ => true
  | _ => false

/-- The fault of a name that has a value already. -/
def overwritten : Fault := .malformed "Cannot overwrite a value"

mutual

/-- A value, and what follows it. -/
def readValue : Nat → List Char → Except Fault (Value × List Char)
  | 0, _ => .error .tooDeep
  | n + 1, cs =>
    match cs with
    | '[' :: rest => do
      let rest ← skipGaps false rest
      let (items, rest) ← readItems n rest
      .ok (.list items, rest)
    | '\x7b' :: rest => do
      let rest ← skipGaps false rest
      let (t, rest) ← readEntries n [] [] rest
      .ok (.table t, rest)
    | 't' :: 'r' :: 'u' :: 'e' :: rest => .ok (.bool true, rest)
    | 'f' :: 'a' :: 'l' :: 's' :: 'e' :: rest => .ok (.bool false, rest)
    | c :: rest =>
      if c == '\x22' || c == '\x27' then (readText c rest).map fun (s, rest) => (.text s, rest)
      else readScalar (c :: rest)
    | [] => .error (.malformed "Invalid value")

/-- The items of a list, and what follows its closing bracket. -/
def readItems : Nat → List Char → Except Fault (List Value × List Char)
  | 0, _ => .error .tooDeep
  | n + 1, cs =>
    match cs with
    | ']' :: rest => .ok ([], rest)
    | cs => do
      let (v, rest) ← readValue n cs
      let rest ← skipGaps false rest
      match rest with
      | ']' :: rest => .ok ([v], rest)
      | ',' :: rest => do
        let rest ← skipGaps false rest
        let (items, rest) ← readItems n rest
        .ok (v :: items, rest)
      | _ => .error (.malformed "Unclosed array")

/-- The entries of a table in braces, and what follows its closing brace. `t` holds the entries
before, and `closed` the paths whose values are finished. -/
def readEntries : Nat → Table → List (List String) → List Char → Except Fault (Table × List Char)
  | 0, _, _, _ => .error .tooDeep
  | n + 1, t, closed, cs =>
    match cs with
    | '\x7d' :: rest => .ok (t, rest)
    | cs => do
      let (path, rest) ← readKey cs
      match rest with
      | '=' :: rest => do
        let (v, rest) ← readValue n (rest.dropWhile isSpace)
        if closed.any (·.isPrefixOf path) then .error overwritten
        else match enterTable false (addField? (path.getLastD "") v) path.dropLast t with
          | none => .error overwritten
          | some t => do
            let closed := if isContainer v then path :: closed else closed
            let rest ← skipGaps false rest
            match rest with
            | '\x7d' :: rest => .ok (t, rest)
            | ',' :: rest => do
              let rest ← skipGaps false rest
              readEntries n t closed rest
            | _ => .error (.malformed "Unclosed inline table")
      | _ => .error (.malformed "Expected '=' after a key in a key/value pair")

end

/-- With some supply, what follows a value, the items of a list and the entries of a table is shorter. -/
structure ReadsShorter (n : Nat) : Prop where
  value {cs after : List Char} {v : Value} (h : readValue n cs = .ok (v, after)) : after.length < cs.length
  items {cs after : List Char} {vs : List Value} (h : readItems n cs = .ok (vs, after)) : after.length < cs.length
  entries {cs after : List Char} {t found : Table} {closed : List (List String)}
    (h : readEntries n t closed cs = .ok (found, after)) : after.length < cs.length

theorem ReadsShorter.succ {n : Nat} (ih : ReadsShorter n) : ReadsShorter (n + 1) where
  value {cs after v} h := by
    rw [readValue.eq_def] at h
    dsimp only at h
    split at h
    · obtain ⟨rest, hgaps, ⟨items, more⟩, hitems, he⟩ := by simpa only [bind_eq_ok] using h
      cases he
      have := length_skipGaps hgaps
      have := ih.items hitems
      grind
    · obtain ⟨rest, hgaps, ⟨t, more⟩, hentries, he⟩ := by simpa only [bind_eq_ok] using h
      cases he
      have := length_skipGaps hgaps
      have := ih.entries hentries
      grind
    · grind
    · grind
    · split at h
      · obtain ⟨⟨s, rest⟩, htext, he⟩ := map_eq_ok_iff.mp h
        cases he
        exact Nat.lt_succ_of_lt (length_readText htext)
      · exact length_readScalar h
    · cases h
  items {cs after vs} h := by
    rw [readItems.eq_def] at h
    dsimp only at h
    split at h
    · grind
    · obtain ⟨⟨v, rest⟩, hvalue, more, hgaps, h⟩ := by simpa only [bind_eq_ok] using h
      have := ih.value hvalue
      have := length_skipGaps hgaps
      split at h
      · grind
      · obtain ⟨others, hothers, ⟨items, last⟩, hitems, he⟩ := by simpa only [bind_eq_ok] using h
        cases he
        have := length_skipGaps hothers
        have := ih.items hitems
        grind
      · cases h
  entries {cs after t found closed} h := by
    rw [readEntries.eq_def] at h
    dsimp only at h
    split at h
    · grind
    · obtain ⟨⟨path, rest⟩, hkey, h⟩ := bind_eq_ok.mp h
      have := length_readKey hkey
      dsimp only at h
      split at h
      · next inner =>
        obtain ⟨⟨v, more⟩, hvalue, h⟩ := bind_eq_ok.mp h
        have := (List.dropWhile_suffix (l := inner) isSpace).length_le
        have := ih.value hvalue
        dsimp only at h
        split at h
        · cases h
        split at h
        · cases h
        · obtain ⟨last, hgaps, h⟩ := bind_eq_ok.mp h
          have := length_skipGaps hgaps
          split at h
          · grind
          · obtain ⟨others, hothers, h⟩ := bind_eq_ok.mp h
            have := length_skipGaps hothers
            have := ih.entries h
            grind
          · cases h
      · cases h

theorem readsShorter (n : Nat) : ReadsShorter n := by
  induction n with
  | zero => constructor <;> intros <;> contradiction
  | succ n ih => exact ih.succ

end ReleaseNotes.Data.Toml
