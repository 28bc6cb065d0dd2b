import ReleaseNotes.Number.Floored
import ReleaseNotes.Template.Expression

/-!
# Operations on values

Arithmetic, comparison and access. An operation on a value that is absent says what was
missing; one that does not apply to values like these is a mismatch.
-/

namespace ReleaseNotes.Template

/-! ### Arithmetic -/

/-- A whole power of an integer: a negative one is a floating-point number. -/
def intPower (base exponent : Int) : Except Fault Value :=
  if 0 ≤ exponent then .ok (.int (Int.pow base exponent.toNat))
  else if base == 0 then .error .zeroDivision
  else .ok (.float (Float.pow (intFloat base) (intFloat exponent)))

/-- The power of a floating-point number. A negative power of zero is a division by zero. -/
def floatPower (x y : Float) : Except Fault Value :=
  let found := Float.pow x y
  if x == 0 && y < 0 then .error .zeroDivision
  else if found.isInf && !x.isInf && !y.isInf then .error .tooLarge
  else .ok (.float found)

/-- An operator on two floating-point numbers. -/
def floatOperation (op : BinaryOp) (x y : Float) : Except Fault Value :=
  match op with
  | .add => .ok (.float (x + y))
  | .subtract => .ok (.float (x - y))
  | .multiply => .ok (.float (x * y))
  | .divide => if y == 0 then .error .zeroDivision else .ok (.float (x / y))
  | .floorDivide => if y == 0 then .error .zeroDivision else .ok (.float (Number.flooredQuotient x y))
  | .remainder => if y == 0 then .error .zeroDivision else .ok (.float (Number.flooredRemainder x y))
  | .power => floatPower x y

/-- A number as a floating-point number that it fits into. -/
def Number.fitFloat : Number → Except Fault Float
  | .int n => if (intFloat n).isInf then .error .tooLarge else .ok (intFloat n)
  | .float x => .ok x

/-- The quotient of two integers as a floating-point number. -/
def intQuotient (m n : Int) : Except Fault Value := do
  let x ← Number.fitFloat (.int m)
  let y ← Number.fitFloat (.int n)
  if n == 0 then .error .zeroDivision else .ok (.float (x / y))

/-- An operator on two numbers. -/
def numberOperation (op : BinaryOp) (a b : Number) : Except Fault Value :=
  match a, b with
  | .int m, .int n =>
    match op with
    | .add => .ok (.int (m + n))
    | .subtract => .ok (.int (m - n))
    | .multiply => .ok (.int (m * n))
    | .divide => intQuotient m n
    | .floorDivide => if n == 0 then .error .zeroDivision else .ok (.int (m.fdiv n))
    | .remainder => if n == 0 then .error .zeroDivision else .ok (.int (m.fmod n))
    | .power => intPower m n
  | a, b => do
    let x ← a.fitFloat
    let y ← b.fitFloat
    floatOperation op x y

/-- A text repeated. -/
def repeatText (s : String) (n : Int) : String :=
  String.join (List.replicate n.toNat s)

/-- A list repeated. -/
def repeatItems (items : List Value) (n : Int) : List Value :=
  (List.replicate n.toNat items).flatten

/-- A character as it is written in markup. -/
def escapeChar (c : Char) : List Char :=
  if c == '&' then "&amp;".toList
  else if c == '<' then "&lt;".toList
  else if c == '>' then "&gt;".toList
  else if c == '\x22' then "&#34;".toList
  else if c == '\x27' then "&#39;".toList
  else [c]

/-- A text as it is written in markup. -/
def escapeText (s : String) : String :=
  String.ofList (s.toList.flatMap escapeChar)

/-- A text escaped, unless it is already. -/
def escapeOnce (s : String) (isEscaped : Bool) : String :=
  if isEscaped then s else escapeText s

/-- Two texts put together. If one of them is escaped, the other is escaped too. -/
def addTexts (s : String) (sEscaped : Bool) (t : String) (tEscaped : Bool) : Value :=
  if sEscaped || tEscaped then .text (escapeOnce s sEscaped ++ escapeOnce t tEscaped) true
  else .plain (s ++ t)

/-- A text or list repeated as often as a number says, if the values are such. -/
def repeated? (v w : Value) : Option Value :=
  match v, w.integer? with
  | .text s isEscaped, some n => some (.text (repeatText s n) isEscaped)
  | .list items, some n => some (.list (repeatItems items n))
  | .tuple items, some n => some (.tuple (repeatItems items n))
  | _, _ => none

/-- Texts or lists put together, or repeated. -/
def sequenceOperation (op : BinaryOp) (v w : Value) : Except Fault Value :=
  match op with
  | .add =>
    match v, w with
    | .text s sEscaped, .text t tEscaped => .ok (addTexts s sEscaped t tEscaped)
    | .list items, .list more => .ok (.list (items ++ more))
    | .tuple items, .tuple more => .ok (.tuple (items ++ more))
    | _, _ => .error .mismatched
  | .multiply =>
    match (repeated? v w).or (repeated? w v) with
    | some found => .ok found
    | none => .error .mismatched
  | _ => .error .mismatched

/-- Refuses a value that is absent, even if it is lenient. -/
def Value.present : Value → Except Fault Unit
  | .absent _ reason => .error (.undefined reason)
  | _ => .ok ()

/-- An operator on two values. -/
def BinaryOp.apply (op : BinaryOp) (v w : Value) : Except Fault Value := do
  v.present
  w.present
  match v.number?, w.number? with
  | some a, some b => numberOperation op a b
  | _, _ => sequenceOperation op v w

/-- An operator on one value. -/
def UnaryOp.apply (op : UnaryOp) (v : Value) : Except Fault Value := do
  v.present
  match op, v.number? with
  | .minus, some (.int n) => .ok (.int (-n))
  | .minus, some (.float x) => .ok (.float (-x))
  | .plus, some (.int n) => .ok (.int n)
  | .plus, some (.float x) => .ok (.float x)
  | _, none => .error .mismatched

/-- Values written one after the other. -/
def joinAll (values : List Value) : Except Fault Value := do
  let texts ← values.mapM Value.written
  .ok (.plain (String.join texts))

/-! ### Comparison -/

/-- Whether a text has another one inside of it. -/
def hasInside (inner : List Char) (cs : List Char) : Bool :=
  inner.isPrefixOf cs ||
    match cs with
    | [] => false
    | _ :: rest => hasInside inner rest

/-- Whether a value can be a key of a table. -/
def Value.canBeKey : Value → Except Fault Unit
  | .list _ => .error .mismatched
  | .table _ _ => .error .mismatched
  | .absent true reason => .error (.undefined reason)
  | _ => .ok ()

/-- Gives a value to a key in a table: a new key comes last. -/
def putEntry (key v : Value) : List Value → List Value → List Value × List Value
  | k :: keys, w :: values =>
    if sameKey key k then (k :: keys, v :: values)
    else
      let (keys, values) := putEntry key v keys values
      (k :: keys, w :: values)
  | _, _ => ([key], [v])

/-- The table with some keys and their values. Of the values of one key, the last one counts. -/
def tableOf (keys values : List Value) : Except Fault Value := do
  keys.forM Value.canBeKey
  let (keys, values) := (keys.zip values).foldl (fun t e => putEntry e.1 e.2 t.1 t.2) ([], [])
  .ok (.table keys values)

/-- Whether a value is in another one. -/
def Value.isIn (v w : Value) : Except Fault Bool :=
  match w with
  | .text s _ =>
    match v with
    | .text t _ => .ok (hasInside t.toList s.toList)
    | _ => .error .mismatched
  | .table keys values => v.canBeKey.map fun _ => (valueUnder? v keys values).isSome
  | w => do
    let items ← w.items
    isAmong v items

/-- Whether two values compare as they should. -/
def Comparison.holds (op : Comparison) (v w : Value) : Except Fault Bool :=
  match op with
  | .equal => v.same w
  | .unequal => (v.same w).map not
  | .among => v.isIn w
  | .notAmong => (v.isIn w).map not
  | .less => do
    v.present
    v.less w
  | .greater => do
    v.present
    w.less v
  | .lessEqual => do
    v.present
    (w.less v).map not
  | .greaterEqual => do
    v.present
    (v.less w).map not

/-! ### Access -/

/-- What a value is called where something is missing in it. -/
def Value.kind : Value → String
  | .nothing => "None"
  | .bool _ => "bool object"
  | .int _ => "int object"
  | .float _ => "float object"
  | .text _ _ => "str object"
  | .list _ => "list object"
  | .tuple _ => "tuple object"
  | .table _ _ => "dict object"
  | .range _ _ _ => "range object"
  | .pass _ => "reversed object"
  | .turn _ _ => "loop object"
  | .function _ => "function object"
  | .absent _ _ => "Undefined object"

/-- What a value lacks under a name. -/
def noAttribute (v : Value) (name : String) : Value :=
  .absent true (Text.quoted v.kind ++ " has no attribute " ++ Text.quoted name)

/-- What a value lacks under a key. -/
def noElement (v key : Value) : Value :=
  match key with
  | .text s _ => noAttribute v s
  | key =>
    let shown := match key.shown with
      | .ok s => s
      | .error _ => ""
    .absent true (v.kind ++ " has no element " ++ shown)

/-- The item of a list at a position, counted from the end if it is negative. -/
def itemAt? (items : List Value) (i : Int) : Option Value :=
  if 0 ≤ i then items[i.toNat]?
  else if i.natAbs ≤ items.length then items[items.length - i.natAbs]?
  else none

/-- What the state of a loop has under a name. -/
def turnAttribute? (index : Nat) (items : List Value) (name : String) : Option Value :=
  let count := items.length
  if name == "index" then some (.int (index + 1))
  else if name == "index0" then some (.int index)
  else if name == "first" then some (.bool (index == 0))
  else if name == "last" then some (.bool (count ≤ index + 1))
  else if name == "length" then some (.int count)
  else if name == "revindex" then some (.int (count - index))
  else if name == "revindex0" then some (.int (count - index - 1))
  else none

/-- What a value has under a key. -/
def Value.item (v key : Value) : Except Fault Value :=
  let missing := noElement v key
  match v with
  | .absent _ reason => .error (.undefined reason)
  | .table keys values =>
    match key with
    | .list _ => .ok missing
    | .table _ _ => .ok missing
    | .absent true reason => .error (.undefined reason)
    | key => .ok ((valueUnder? key keys values).getD missing)
  | .turn index items =>
    match key with
    | .text s _ => .ok ((turnAttribute? index items s).getD missing)
    | _ => .ok missing
  | .text s isEscaped =>
    match key.integer? with
    | some i =>
      let found := match itemAt? (characters s) i with
        | some (.text c _) => Value.text c isEscaped
        | _ => missing
      .ok found
    | none => .ok missing
  | .list items => .ok ((key.integer?.bind (itemAt? items)).getD missing)
  | .tuple items => .ok ((key.integer?.bind (itemAt? items)).getD missing)
  | .range start stop step =>
    .ok ((key.integer?.bind (itemAt? (rangeItems start stop step))).getD missing)
  | _ => .ok missing

/-- What a value has under a name. -/
def Value.attribute (v : Value) (name : String) : Except Fault Value :=
  v.item (.plain name)

/-- A bound of a part as a position between zero and the length, or one beyond either if the part
runs backwards. -/
def clampBound (length : Nat) (low high : Int) (bound : Int) : Int :=
  let bound := if bound < 0 then bound + length else bound
  if bound < low then low else if high < bound then high else bound

/-- The positions of a part of a list. -/
def partPositions (length : Nat) (start? stop? : Option Int) (step : Int) : List Nat :=
  let count : Int := length
  let (low, high) : Int × Int := if 0 < step then (0, count) else (-1, count - 1)
  let start := match start? with
    | some bound => clampBound length low high bound
    | none => if 0 < step then low else high
  let stop := match stop? with
    | some bound => clampBound length low high bound
    | none => if 0 < step then high else low
  (List.range (rangeCount start stop step)).map fun i : Nat => (start + step * Int.ofNat i).toNat

/-- The items of a part of a list. -/
def partOf {α : Type} (items : List α) (start? stop? : Option Int) (step : Int) : List α :=
  (partPositions items.length start? stop? step).filterMap fun i => items[i]?

/-- A bound that may be left out. -/
def Value.bound? : Value → Except Fault (Option Int)
  | .nothing => .ok none
  | v =>
    match v.integer? with
    | some n => .ok (some n)
    | none => .error .mismatched

/-- A part of a text or list. -/
def Value.slice (v start stop step : Value) : Except Fault Value := do
  v.present
  let start? ← start.bound?
  let stop? ← stop.bound?
  let step? ← step.bound?
  let step := step?.getD 1
  if step == 0 then .error .unfit
  else match v with
    | .text s isEscaped => .ok (.text (String.ofList (partOf s.toList start? stop? step)) isEscaped)
    | .list items => .ok (.list (partOf items start? stop? step))
    | .tuple items => .ok (.tuple (partOf items start? stop? step))
    | _ => .error .mismatched

end ReleaseNotes.Template
