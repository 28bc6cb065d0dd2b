import ReleaseNotes.Data.Toml.Quoted
import ReleaseNotes.Data.Value
import ReleaseNotes.Text.Decimal

/-!
# Numbers and moments of TOML

An integer is decimal with a sign, without a zero in front, or in base two, eight or sixteen
after a mark. A floating-point number has a fraction or an exponent or is one of the words for
an infinity and for what is not a number. A moment is a date, a time of day, or both.
-/

namespace ReleaseNotes.Data.Toml

/-! ### Numbers -/

/-- The bases other than ten: the letter after a zero that stands for each, and the value of its
digits. -/
def bases : List (Char × Nat × (Char → Option Nat)) :=
  [('x', 16, Number.asciiHex?), ('o', 8, Number.octal?), ('b', 2, Number.binary?)]

/-- An integer after the mark of its base, and what follows it. -/
def readMarked? : List Char → Option (Value × List Char)
  | '0' :: c :: rest => do
    let (base, digit?) ← bases.lookup c
    match Number.takeRun (fun d => (digit? d).isSome) rest with
    | ([], _) => none
    | (run, after) => some (.int (Number.ofRun base run), after)
  | _ => none

theorem length_readMarked? {cs after : List Char} {v : Value} (h : readMarked? cs = some (v, after)) :
    after.length < cs.length := by
  rw [readMarked?.eq_def] at h
  split at h
  · next c rest =>
    obtain ⟨⟨base, digit?⟩, -, h⟩ := Option.bind_eq_some_iff.mp h
    have := Number.length_takeRun (fun d => (digit? d).isSome) rest
    grind
  · cases h

/-- The digits of a decimal number before its point, and what follows them. A zero stands
alone. -/
def takeWhole : List Char → List Char × List Char
  | '0' :: rest => (['0'], rest)
  | cs => Number.takeRun Char.isDigit cs

theorem length_takeWhole (cs : List Char) :
    (takeWhole cs).1.length + (takeWhole cs).2.length ≤ cs.length := by
  rw [takeWhole.eq_def]
  split
  · simp [Nat.add_comm]
  · exact Number.length_takeRun Char.isDigit _

/-- A decimal number, and what follows it. -/
def readDecimal? (cs : List Char) : Option (Except Fault Value × List Char) :=
  let (isNegative, rest) := Number.takeSign cs
  match takeWhole rest with
  | ([], _) => none
  | (whole, rest) =>
    let (fraction, rest) := Number.takeFraction rest
    match Number.takeExponent? rest with
    | some (e, rest) => some (.ok (.float (Number.floatOf isNegative whole fraction e)), rest)
    | none =>
      if !fraction.isEmpty then
        some (.ok (.float (Number.floatOf isNegative whole fraction 0)), rest)
      else if Text.digitLimit < whole.length then some (.error .oversized, rest)
      else
        let size : Int := Number.ofRun 10 whole
        some (.ok (.int (if isNegative then -size else size)), rest)

theorem length_readDecimal? {cs after : List Char} {made : Except Fault Value}
    (h : readDecimal? cs = some (made, after)) : after.length < cs.length := by
  have hsign := Number.length_takeSign cs
  have hwhole := length_takeWhole (Number.takeSign cs).2
  simp only [readDecimal?] at h
  split at h
  · cases h
  · next whole rest hsome hfound =>
    have hsome : 0 < whole.length := List.length_pos_iff.mpr hsome
    have hpart := Number.length_takeFraction rest
    rw [hfound] at hwhole
    dsimp only at hwhole
    split at h
    · next he =>
      have := Number.length_takeExponent? he
      grind
    · grind

/-- A word for an infinity or for what is not a number, and what follows it. -/
def readSpecial? (cs : List Char) : Option (Value × List Char) :=
  let (isNegative, rest) := Number.takeSign cs
  let word := String.ofList (rest.take 3)
  let size? : Option Float :=
    if word == "inf" then some (1 / 0) else if word == "nan" then some (0 / 0) else none
  size?.map fun size => (.float (if isNegative then -size else size), rest.drop 3)

theorem length_readSpecial? {cs after : List Char} {v : Value} (h : readSpecial? cs = some (v, after)) :
    after.length < cs.length := by
  have := Number.length_takeSign cs
  simp only [readSpecial?] at h
  obtain ⟨size, hsize, he⟩ := Option.map_eq_some_iff.mp h
  cases he
  have : (Number.takeSign cs).2 ≠ [] := by
    intro hn
    rw [hn] at hsize
    cases hsize
  have := List.length_pos_iff.mpr this
  rw [List.length_drop]
  omega

/-! ### Moments -/

/-- The number that as many digits as `count` says stand for, if it lies within bounds, and what
follows them. -/
def takeField? (count low high : Nat) (cs : List Char) : Option (Nat × List Char) := do
  let digits ← (cs.take count).mapM Number.asciiDigit?
  let n := Text.ofDigits 10 digits
  if digits.length == count && low ≤ n && n ≤ high then some (n, cs.drop count) else none

theorem length_takeField? {count low high n : Nat} {cs rest : List Char}
    (h : takeField? count low high cs = some (n, rest)) : rest.length ≤ cs.length := by
  obtain ⟨digits, -, h⟩ := Option.bind_eq_some_iff.mp h
  grind

/-- What follows a character that must be there. -/
def after? (c : Char) : List Char → Option (List Char)
  | d :: rest => if d == c then some rest else none
  | [] => none

theorem length_after? {c : Char} {cs rest : List Char} (h : after? c cs = some rest) : rest.length < cs.length := by
  rw [after?.eq_def] at h
  split at h <;> grind

/-- What follows a fraction of a second. -/
def skipFraction (cs : List Char) : List Char :=
  match cs with
  | '.' :: rest =>
    let after := rest.dropWhile Char.isDigit
    if after.length < rest.length then after else cs
  | _ => cs

theorem length_skipFraction (cs : List Char) : (skipFraction cs).length ≤ cs.length := by
  rw [skipFraction.eq_def]
  split
  · next rest =>
    have := (List.dropWhile_suffix (l := rest) Char.isDigit).length_le
    grind
  · exact Nat.le_refl _

/-- What follows the seconds, which may be left out. -/
def skipSeconds (cs : List Char) : List Char :=
  match (after? ':' cs).bind (takeField? 2 0 59) with
  | some (_, rest) => skipFraction rest
  | none => cs

theorem length_skipSeconds (cs : List Char) : (skipSeconds cs).length ≤ cs.length := by
  rw [skipSeconds]
  split
  · next n rest h =>
    obtain ⟨more, hcolon, hfield⟩ := Option.bind_eq_some_iff.mp h
    have := length_after? hcolon
    have := length_takeField? hfield
    have := length_skipFraction rest
    omega
  · exact Nat.le_refl _

/-- What follows a time of day. -/
def afterTime? (cs : List Char) : Option (List Char) := do
  let (_, rest) ← takeField? 2 0 23 cs
  let rest ← after? ':' rest
  let (_, rest) ← takeField? 2 0 59 rest
  some (skipSeconds rest)

theorem length_afterTime? {cs after : List Char} (h : afterTime? cs = some after) : after.length < cs.length := by
  simp only [afterTime?, Option.bind_eq_bind, Option.bind_eq_some_iff] at h
  obtain ⟨⟨hour, rest⟩, hhour, more, hcolon, ⟨minute, last⟩, hminute, he⟩ := h
  cases he
  have := length_takeField? hhour
  have := length_after? hcolon
  have := length_takeField? hminute
  have := length_skipSeconds last
  dsimp only at *
  omega

/-- What follows a distance from the time at the prime meridian, which may be left out. -/
def skipOffset (cs : List Char) : List Char :=
  match cs with
  | c :: rest =>
    if c == 'Z' || c == 'z' then rest
    else if c == '+' || c == '-' then
      let after := do
        let (_, rest) ← takeField? 2 0 23 rest
        let rest ← after? ':' rest
        let (_, rest) ← takeField? 2 0 59 rest
        some rest
      after.getD cs
    else cs
  | [] => []

theorem length_skipOffset (cs : List Char) : (skipOffset cs).length ≤ cs.length := by
  rw [skipOffset.eq_def]
  split
  · next c rest =>
    split
    · simp
    split
    · simp only [Option.bind_eq_bind]
      cases hafter : (takeField? 2 0 23 rest).bind fun (_, rest) =>
          (after? ':' rest).bind fun rest => (takeField? 2 0 59 rest).bind fun (_, rest) => some rest with
      | none => exact Nat.le_refl _
      | some after =>
        simp only [Option.bind_eq_some_iff] at hafter
        obtain ⟨⟨hour, more⟩, hhour, last, hcolon, ⟨minute, final⟩, hminute, he⟩ := hafter
        cases he
        have := length_takeField? hhour
        have := length_after? hcolon
        have := length_takeField? hminute
        simp only [Option.getD_some, List.length_cons] at *
        omega
    · exact Nat.le_refl _
  · exact Nat.le_refl _

/-- What follows the time of day after a date, which may be left out. -/
def skipTime (cs : List Char) : List Char :=
  match cs with
  | c :: rest =>
    if c == 'T' || c == 't' || c == ' ' then ((afterTime? rest).map skipOffset).getD cs else cs
  | [] => []

theorem length_skipTime (cs : List Char) : (skipTime cs).length ≤ cs.length := by
  rw [skipTime.eq_def]
  split
  · next c rest =>
    split
    · cases htime : afterTime? rest with
      | none => exact Nat.le_refl _
      | some after =>
        have := length_afterTime? htime
        have := length_skipOffset after
        simp only [Option.map_some, Option.getD_some, List.length_cons]
        omega
    · exact Nat.le_refl _
  · exact Nat.le_refl _

/-- How many days a month has. -/
def monthDays (year month : Nat) : Nat :=
  if month == 2 then
    if year % 4 == 0 && (year % 100 != 0 || year % 400 == 0) then 29 else 28
  else if [4, 6, 9, 11].contains month then 30
  else 31

/-- A date with the time of day after it, and what follows them. A date that does not exist is a
fault. -/
def readDate? (cs : List Char) : Option (Except Fault Value × List Char) := do
  let (year, rest) ← takeField? 4 0 9999 cs
  let rest ← after? '-' rest
  let (month, rest) ← takeField? 2 1 12 rest
  let rest ← after? '-' rest
  let (day, rest) ← takeField? 2 1 31 rest
  let found : Except Fault Value :=
    if year == 0 || monthDays year month < day then
      .error (.malformed "Invalid date or datetime")
    else .ok .moment
  some (found, skipTime rest)

theorem length_readDate? {cs after : List Char} {made : Except Fault Value}
    (h : readDate? cs = some (made, after)) : after.length < cs.length := by
  simp only [readDate?, Option.bind_eq_bind, Option.bind_eq_some_iff] at h
  obtain ⟨⟨year, rest⟩, hyear, rest', hfirst, ⟨month, more⟩, hmonth, more', hsecond, ⟨day, last⟩, hday, he⟩ := h
  cases he
  have := length_takeField? hyear
  have := length_after? hfirst
  have := length_takeField? hmonth
  have := length_after? hsecond
  have := length_takeField? hday
  have := length_skipTime last
  dsimp only at *
  omega

/-- A number or a moment, and what follows it. -/
def readScalar (cs : List Char) : Except Fault (Value × List Char) :=
  match readDate? cs with
  | some (found, rest) => found.map fun v => (v, rest)
  | none =>
    match afterTime? cs, readMarked? cs, readDecimal? cs, readSpecial? cs with
    | some rest, _, _, _ => .ok (.moment, rest)
    | none, some found, _, _ => .ok found
    | none, none, some (found, rest), _ => found.map fun v => (v, rest)
    | none, none, none, some found => .ok found
    | none, none, none, none => .error (.malformed "Invalid value")

theorem length_readScalar {cs after : List Char} {v : Value} (h : readScalar cs = .ok (v, after)) :
    after.length < cs.length := by
  rw [readScalar] at h
  split at h
  · next hdate =>
    obtain ⟨_, -, he⟩ := map_eq_ok_iff.mp h
    cases he
    exact length_readDate? hdate
  split at h
  · next htime =>
    cases h
    exact length_afterTime? htime
  · next _ hmarked =>
    cases h
    exact length_readMarked? hmarked
  · next _ hdecimal =>
    obtain ⟨_, -, he⟩ := map_eq_ok_iff.mp h
    cases he
    exact length_readDecimal? hdecimal
  · next hspecial =>
    cases h
    exact length_readSpecial? hspecial
  · cases h

end ReleaseNotes.Data.Toml
