import ReleaseNotes.Number.Shortest
import ReleaseNotes.Template.Fault
import ReleaseNotes.Text.Decimal
import ReleaseNotes.Text.Quoted

/-!
# Values of templates

What the expressions of a template stand for, how a value is written, when it counts as
true, what it holds, and how two values compare.

A name that means nothing has a value too, an absent one. It can be passed on and tested
for, but any other use of it is a fault that says what was missing. Only the value of a
choice without an alternative is lenient: it is written as nothing and holds nothing.
-/

namespace ReleaseNotes.Template

/-- A value of an expression. -/
inductive Value where
  /-- The value that stands for nothing. -/
  | nothing
  /-- A truth value. -/
  | bool (b : Bool)
  /-- An integer. -/
  | int (n : Int)
  /-- A floating-point number. -/
  | float (x : Float)
  /-- A text, and whether it is already escaped for markup. -/
  | text (s : String) (isEscaped : Bool)
  /-- A list. -/
  | list (items : List Value)
  /-- A list of fixed length. -/
  | tuple (items : List Value)
  /-- A table: its keys in order, and as many values. -/
  | table (keys values : List Value)
  /-- The integers from one on, by steps, up to a bound. -/
  | range (start stop step : Int)
  /-- A pass over some values, which has no length. -/
  | pass (items : List Value)
  /-- The state of a loop: how many turns it has made, and the values it goes through. -/
  | turn (index : Nat) (items : List Value)
  /-- A function of the language. -/
  | function (name : String)
  /-- No value: whether any use of it is a fault, and what was missing. -/
  | absent (isStrict : Bool) (reason : String)
  deriving Repr, Inhabited

/-- A text that is not escaped. -/
def Value.plain (s : String) : Value :=
  .text s false

/-! ### Writing -/

/-- An integer in decimal. -/
def intText (n : Int) : Except Fault String :=
  match Text.decimal? n with
  | some s => .ok s
  | none => .error .unfit

/-- The items of a tuple in parentheses; one alone has a comma after it. -/
def tupleText : List String → String
  | [item] => "(" ++ item ++ ",)"
  | items => "(" ++ ", ".intercalate items ++ ")"

/-- The entries of a table in braces. -/
def tableText (keys values : List String) : String :=
  "\x7b" ++ ", ".intercalate ((keys.zip values).map fun e => e.1 ++ ": " ++ e.2) ++ "\x7d"

mutual

/-- A value as it is written inside of a list. -/
def Value.shown : Value → Except Fault String
  | .nothing => .ok "None"
  | .bool b => .ok (if b then "True" else "False")
  | .int n => intText n
  | .float x => .ok (Number.floatText x)
  | .text s isEscaped =>
    .ok (if isEscaped then "Markup(" ++ Text.quoted s ++ ")" else Text.quoted s)
  | .list items => do
    let items ← shownAll items
    .ok ("[" ++ ", ".intercalate items ++ "]")
  | .tuple items => (shownAll items).map tupleText
  | .table keys values => do
    let keys ← shownAll keys
    let values ← shownAll values
    .ok (tableText keys values)
  | .range start stop step => do
    let start ← intText start
    let stop ← intText stop
    let bounds := start ++ ", " ++ stop
    if step == 1 then .ok ("range(" ++ bounds ++ ")")
    else do
      let step ← intText step
      .ok ("range(" ++ bounds ++ ", " ++ step ++ ")")
  | .pass _ => .ok "<reversed>"
  | .turn index items =>
    .ok ("<LoopContext " ++ toString (index + 1) ++ "/" ++ toString items.length ++ ">")
  | .function name =>
    .ok (if name == "self" then "<TemplateReference None>" else "<class '" ++ name ++ "'>")
  | .absent _ _ => .ok "Undefined"

/-- Values as they are written inside of a list. -/
def shownAll : List Value → Except Fault (List String)
  | [] => .ok []
  | v :: rest => do
    let v ← v.shown
    let rest ← shownAll rest
    .ok (v :: rest)

end

/-- A value as it is written into a text. -/
def Value.written : Value → Except Fault String
  | .text s _ => .ok s
  | .absent isStrict reason => if isStrict then .error (.undefined reason) else .ok ""
  | v => v.shown

/-! ### Truth and contents -/

/-- How many integers a range has. -/
def rangeCount (start stop step : Int) : Nat :=
  if 0 < step then ((stop - start + step - 1) / step).toNat
  else if step < 0 then ((start - stop - step - 1) / (-step)).toNat
  else 0

/-- The integers of a range. -/
def rangeItems (start stop step : Int) : List Value :=
  (List.range (rangeCount start stop step)).map fun i : Nat => .int (start + step * Int.ofNat i)

/-- Whether a value counts as true: it is not false, zero or empty. -/
def Value.isTrue : Value → Except Fault Bool
  | .nothing => .ok false
  | .bool b => .ok b
  | .int n => .ok (n != 0)
  | .float x => .ok (x != 0)
  | .text s _ => .ok (!s.isEmpty)
  | .list items => .ok (!items.isEmpty)
  | .tuple items => .ok (!items.isEmpty)
  | .table keys _ => .ok (!keys.isEmpty)
  | .range start stop step => .ok (rangeCount start stop step != 0)
  | .pass _ => .ok true
  | .turn _ _ => .ok true
  | .function _ => .ok true
  | .absent isStrict reason => if isStrict then .error (.undefined reason) else .ok false

/-- The characters of a text, each as a text. -/
def characters (s : String) : List Value :=
  s.toList.map fun c => .plain (String.singleton c)

/-- The values that one comes upon in going through a value. -/
def Value.items : Value → Except Fault (List Value)
  | .text s _ => .ok (characters s)
  | .list items => .ok items
  | .tuple items => .ok items
  | .table keys _ => .ok keys
  | .range start stop step => .ok (rangeItems start stop step)
  | .pass items => .ok items
  | .absent isStrict reason => if isStrict then .error (.undefined reason) else .ok []
  | _ => .error .mismatched

/-- How many values a value holds. -/
def Value.size : Value → Except Fault Nat
  | .pass _ => .error .mismatched
  | v => v.items.map List.length

/-! ### Comparing -/

/-- An integer or a floating-point number. -/
inductive Number where
  /-- An integer. -/
  | int (n : Int)
  /-- A floating-point number. -/
  | float (x : Float)
  deriving Repr

/-- The number that a value is. A truth value is one or zero. -/
def Value.number? : Value → Option Number
  | .bool b => some (.int (if b then 1 else 0))
  | .int n => some (.int n)
  | .float x => some (.float x)
  | _ => none

/-- The integer that a value is. -/
def Value.integer? (v : Value) : Option Int :=
  match v.number? with
  | some (.int n) => some n
  | _ => none

/-- The floating-point number nearest to an integer. -/
def intFloat (n : Int) : Float :=
  if n < 0 then -Float.ofNat n.natAbs else Float.ofNat n.natAbs

/-- A number as a floating-point number. -/
def Number.toFloat : Number → Float
  | .int n => intFloat n
  | .float x => x

/-- Whether two numbers are equal. -/
def Number.same : Number → Number → Bool
  | .int m, .int n => m == n
  | a, b => a.toFloat == b.toFloat

/-- Whether one number is less than another. -/
def Number.less : Number → Number → Bool
  | .int m, .int n => m < n
  | a, b => a.toFloat < b.toFloat

/-- Refuses a value whose every use is a fault. -/
def Value.require : Value → Except Fault Unit
  | .absent true reason => .error (.undefined reason)
  | _ => .ok ()

/-- Whether two numbers, truth values or texts are equal. -/
def sameScalar (v w : Value) : Bool :=
  match v, w with
  | .nothing, .nothing => true
  | .text s _, .text t _ => s == t
  | .function name, .function other => name == other
  | v, w =>
    match v.number?, w.number? with
    | some a, some b => a.same b
    | _, _ => false

mutual

/-- Whether two keys of a table are equal. -/
def sameKey (v w : Value) : Bool :=
  match v with
  | .tuple items =>
    match w with
    | .tuple others => sameKeys items others
    | _ => false
  | v => sameScalar v w

/-- Whether two lists of keys are equal. -/
def sameKeys : List Value → List Value → Bool
  | [], [] => true
  | v :: rest, w :: others => sameKey v w && sameKeys rest others
  | _, _ => false

end

/-- The value that stands under a key, in lists of keys and of their values. -/
def valueUnder? (key : Value) : List Value → List Value → Option Value
  | k :: keys, v :: values => if sameKey key k then some v else valueUnder? key keys values
  | _, _ => none

/-- Whether two ranges hold the same integers. -/
def sameRange (start stop step start₂ stop₂ step₂ : Int) : Bool :=
  let count := rangeCount start stop step
  count == rangeCount start₂ stop₂ step₂ &&
    (count == 0 || (start == start₂ && (count == 1 || step == step₂)))

mutual

/-- Whether two values are equal. -/
def Value.same (v w : Value) : Except Fault Bool :=
  match v with
  | .absent true reason => .error (.undefined reason)
  | .absent false _ =>
    match w with
    | .absent true reason => .error (.undefined reason)
    | .absent false _ => .ok true
    | _ => .ok false
  | .list items =>
    match w with
    | .absent true reason => .error (.undefined reason)
    | .list others => sameAll items others
    | _ => .ok false
  | .tuple items =>
    match w with
    | .absent true reason => .error (.undefined reason)
    | .tuple others => sameAll items others
    | _ => .ok false
  | .table keys values =>
    match w with
    | .absent true reason => .error (.undefined reason)
    | .table others results =>
      if keys.length == others.length then sameEntries keys others results values else .ok false
    | _ => .ok false
  | .range start stop step =>
    match w with
    | .absent true reason => .error (.undefined reason)
    | .range start₂ stop₂ step₂ => .ok (sameRange start stop step start₂ stop₂ step₂)
    | _ => .ok false
  | v =>
    match w with
    | .absent true reason => .error (.undefined reason)
    | w => .ok (sameScalar v w)

/-- Whether two lists of values are equal. -/
def sameAll : List Value → List Value → Except Fault Bool
  | [], [] => .ok true
  | v :: rest, w :: others => do
    if ← v.same w then sameAll rest others else .ok false
  | _, _ => .ok false

/-- Whether a table with the keys `others` and the values `results` has every one of some
entries. -/
def sameEntries (keys others results : List Value) : List Value → Except Fault Bool
  | [] => .ok true
  | v :: values =>
    match keys with
    | [] => .ok true
    | k :: keys =>
      match valueUnder? k others results with
      | none => .ok false
      | some r => do
        if ← v.same r then sameEntries keys others results values else .ok false

end

mutual

/-- Whether one value is less than another. -/
def Value.less (v w : Value) : Except Fault Bool :=
  match v with
  | .absent _ reason => .error (.undefined reason)
  | .list items =>
    match w with
    | .absent _ reason => .error (.undefined reason)
    | .list others => lessAll items others
    | _ => .error .mismatched
  | .tuple items =>
    match w with
    | .absent _ reason => .error (.undefined reason)
    | .tuple others => lessAll items others
    | _ => .error .mismatched
  | .text s _ =>
    match w with
    | .absent _ reason => .error (.undefined reason)
    | .text t _ => .ok (s < t)
    | _ => .error .mismatched
  | v =>
    match w with
    | .absent _ reason => .error (.undefined reason)
    | w =>
      match v.number?, w.number? with
      | some a, some b => .ok (a.less b)
      | _, _ => .error .mismatched

/-- Whether one list of values comes before another: by the first values that differ, or else
the shorter one first. -/
def lessAll : List Value → List Value → Except Fault Bool
  | v :: rest, w :: others => do
    if ← v.same w then lessAll rest others else v.less w
  | [], _ :: _ => .ok true
  | _, [] => .ok false

end

/-- Whether a value is among some others. -/
def isAmong (v : Value) : List Value → Except Fault Bool
  | [] => .ok false
  | w :: rest => do
    if ← v.same w then .ok true else isAmong v rest

end ReleaseNotes.Template
