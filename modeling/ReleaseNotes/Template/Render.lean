import ReleaseNotes.Template.Check

/-!
# Rendering

Putting values into a template. Names are looked up in the frames that are open, innermost
first. A frame is entered with a first value for each of its names, as `Scope` settles them, and
every turn of a loop enters a frame of its own; so what is given a value in a loop is forgotten
after the turn.
-/

namespace ReleaseNotes.Template

/-- The values that the caller of a template gives to names. -/
abbrev Context := List (String × Value)

/-- The names of a frame with their values. -/
abbrev Frame := List (String × Value)

/-- The value of a name that means nothing. -/
def missing (n : String) : Value :=
  .absent true (Text.quoted n ++ " is undefined")

/-- The value that a name has for the caller, or in the language. -/
def Context.value (caller : Context) (n : String) : Value :=
  match caller.lookup n with
  | some v => v
  | none => if globalNames.contains n then .function n else missing n

/-- The value that a name has in the innermost frame that has it. -/
def valueIn (frames : List Frame) (n : String) : Value :=
  (frames.findSome? fun frame => frame.lookup n).getD (missing n)

/-- The frame with which a body is entered. `given` holds the values it is entered with. -/
def enter (caller : Context) (frames : List Frame) (given : Frame) (names : Names) : Frame :=
  names.map fun (n, origin) =>
    (n, match origin with
      | .given => (given.lookup n).getD (missing n)
      | .around => valueIn frames n
      | .caller => caller.value n
      | .nowhere => missing n)

/-- The frames with a value given to a name of the innermost one. -/
def giveValue (n : String) (v : Value) : List Frame → List Frame
  | [] => []
  | frame :: rest => frame.map (fun e => if e.1 == n then (n, v) else e) :: rest

/-! ### Expressions -/

mutual

/-- The value of an expression. -/
def Expr.value (frames : List Frame) : Expr → Except Fault Value
  | .constant v => .ok v
  | .name n => .ok (valueIn frames n)
  | .list items => (valuesOfAll frames items).map .list
  | .tuple items => (valuesOfAll frames items).map .tuple
  | .table keys values => do
    let keys ← valuesOfAll frames keys
    let values ← valuesOfAll frames values
    tableOf keys values
  | .attribute whole name => do
    let whole ← whole.value frames
    whole.attribute name
  | .item whole key => do
    let whole ← whole.value frames
    let key ← key.value frames
    whole.item key
  | .slice whole start stop step => do
    let whole ← whole.value frames
    let start ← start.value frames
    let stop ← stop.value frames
    let step ← step.value frames
    whole.slice start stop step
  | .unary op e => do
    let v ← e.value frames
    op.apply v
  | .binary op left right => do
    let v ← left.value frames
    let w ← right.value frames
    op.apply v w
  | .joined items => do
    let values ← valuesOfAll frames items
    joinAll values
  | .both left right => do
    let v ← left.value frames
    if ← v.isTrue then right.value frames else .ok v
  | .either left right => do
    let v ← left.value frames
    if ← v.isTrue then .ok v else right.value frames
  | .negation e => do
    let v ← e.value frames
    let isTrue ← v.isTrue
    .ok (.bool !isTrue)
  | .comparison first ops rest => do
    let v ← first.value frames
    (compareChain frames v ops rest).map .bool
  | .choice value test otherwise => do
    let tested ← test.value frames
    if ← tested.isTrue then value.value frames else otherwise.value frames
  | .filter e name arguments names => do
    let v ← e.value frames
    let arguments ← valuesOfAll frames arguments
    applyFilter name v (.ofList arguments names)
  | .test e name arguments names => do
    let v ← e.value frames
    let arguments ← valuesOfAll frames arguments
    (passesTest name v (.ofList arguments names)).map .bool
  | .call function arguments names => do
    let function ← function.value frames
    let arguments ← valuesOfAll frames arguments
    applyValue function (.ofList arguments names)

/-- The values of some expressions. -/
def valuesOfAll (frames : List Frame) : List Expr → Except Fault (List Value)
  | [] => .ok []
  | e :: rest => do
    let v ← e.value frames
    let values ← valuesOfAll frames rest
    .ok (v :: values)

/-- Whether a value and those of some expressions compare as they should, each with the next. What
comes after the first that does not is left alone. -/
def compareChain (frames : List Frame) (v : Value) :
    List Comparison → List Expr → Except Fault Bool
  | op :: ops, e :: rest => do
    let w ← e.value frames
    if ← op.holds v w then compareChain frames w ops rest else .ok false
  | _, _ => .ok true

end

/-! ### Targets -/

mutual

/-- The names of a target with the values that they get from a value. -/
def Target.bind (v : Value) : Target → Except Fault Frame
  | .name n => .ok [(n, v)]
  | .several targets => do
    let items ← v.items
    bindAll items targets

/-- The names of some targets with the values that they get, one each. -/
def bindAll : List Value → List Target → Except Fault Frame
  | [], [] => .ok []
  | v :: values, t :: targets => do
    let first ← t.bind v
    let others ← bindAll values targets
    .ok (first ++ others)
  | _, _ => .error .unfit

end

/-! ### Statements -/

/-- The values of a loop that pass its test. -/
def passing (caller : Context) (frames : List Frame) (target : Target) (test : Expr) :
    List Value → Except Fault (List Value)
  | [] => .ok []
  | v :: values => do
    let given ← target.bind v
    let frame := enter caller frames given (testNames (frames.map (·.map Prod.fst)) target test)
    let tested ← test.value (frame :: frames)
    let passes ← tested.isTrue
    let others ← passing caller frames target test values
    .ok (if passes then v :: others else others)

/-- The values of a loop that pass its test, if it has one. -/
def passingAll (caller : Context) (frames : List Frame) (target : Target) (test? : Option Expr)
    (values : List Value) : Except Fault (List Value) :=
  match test? with
  | none => .ok values
  | some test => passing caller frames target test values

/-- The frame with which a turn of a loop is entered. -/
def enterTurn (caller : Context) (frames : List Frame) (target : Target) (body : List Statement)
    (index : Nat) (values : List Value) (v : Value) : Except Fault Frame := do
  let given ← target.bind v
  let names := bodyNames (frames.map (·.map Prod.fst)) target body
  .ok (enter caller frames ((loopName, .turn index values) :: given) names)

mutual

/-- What a statement writes, and the frames after it. -/
def Statement.run (caller : Context) (frames : List Frame) :
    Statement → Except Fault (String × List Frame)
  | .text s => .ok (s, frames)
  | .output e => do
    let v ← e.value frames
    let s ← v.written
    .ok (s, frames)
  | .branch test body otherwise => do
    let tested ← test.value frames
    if ← tested.isTrue then runAll caller frames body else runAll caller frames otherwise
  | .loop target source test? body otherwise => do
    let v ← source.value frames
    let values ← v.items
    let values ← passingAll caller frames target test? values
    if values.isEmpty then
      let names := settleAll (frames.map (·.map Prod.fst)) false [] otherwise
      let (s, _) ← runAll caller (enter caller frames [] names :: frames) otherwise
      .ok (s, frames)
    else
      let written ← values.zipIdx.mapM fun (v, index) => do
        let frame ← enterTurn caller frames target body index values v
        let (s, _) ← runAll caller (frame :: frames) body
        .ok s
      .ok (String.join written, frames)
  | .assign target e => do
    let v ← e.value frames
    let given ← target.bind v
    .ok ("", given.foldl (fun frames e => giveValue e.1 e.2 frames) frames)

/-- What some statements write, and the frames after them. -/
def runAll (caller : Context) (frames : List Frame) :
    List Statement → Except Fault (String × List Frame)
  | [] => .ok ("", frames)
  | s :: rest => do
    let (first, frames) ← s.run caller frames
    let (others, frames) ← runAll caller frames rest
    .ok (first ++ others, frames)

end

/-- What the statements of a whole template write. The name of the template itself cannot be given a
value. -/
def runTemplate (caller : Context) (found : List Statement) : Except Fault String :=
  if (caller.lookup selfName).isSome then .error .mismatched
  else
    let given : Frame := [(selfName, .function selfName)]
    let frame := enter caller [] given (templateNames found)
    (runAll caller [frame] found).map Prod.fst

end ReleaseNotes.Template
