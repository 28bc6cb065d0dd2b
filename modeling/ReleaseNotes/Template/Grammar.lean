import ReleaseNotes.Template.Expression
import ReleaseNotes.Template.Token

/-!
# The grammar of expressions

Reading an expression from the tokens of a tag. Operators bind in levels, from the loosest,
the choice, to the tightest, the power (`Level`); a sign in front, an index, a call or a
filter binds tighter still. Where a level has operators of two operands they group to the
left.

Every step of the reading takes one unit from a supply that is large enough for the tokens
at hand, so the supply decides nothing.
-/

namespace ReleaseNotes.Template

/-- How tightly an operator binds. -/
inductive Level where
  /-- One of two values. -/
  | choice
  /-- One value or else another. -/
  | either
  /-- One value and another. -/
  | both
  /-- A value negated. -/
  | negation
  /-- Values compared. -/
  | comparison
  /-- Sums and differences. -/
  | sum
  /-- Values written one after the other. -/
  | joined
  /-- Products and quotients. -/
  | product
  /-- Powers. -/
  | power
  /-- A value with a sign in front and all that follows it directly. -/
  | operand
  deriving DecidableEq, Repr

/-- The next tighter level. -/
def Level.next : Level → Level
  | .choice => .either
  | .either => .both
  | .both => .negation
  | .negation => .comparison
  | .comparison => .sum
  | .sum => .joined
  | .joined => .product
  | .product => .power
  | .power => .operand
  | .operand => .operand

/-- What an operator of two operands makes of them, if the level has it. -/
def Level.operator? (level : Level) (token : Token) : Option (Expr → Expr → Expr) :=
  match level, token with
  | .either, .name s => if s == "or" then some .either else none
  | .both, .name s => if s == "and" then some .both else none
  | .sum, .sign s =>
    if s == "+" then some (.binary .add)
    else if s == "-" then some (.binary .subtract)
    else none
  | .product, .sign s =>
    if s == "*" then some (.binary .multiply)
    else if s == "/" then some (.binary .divide)
    else if s == "//" then some (.binary .floorDivide)
    else if s == "%" then some (.binary .remainder)
    else none
  | .power, .sign s => if s == "**" then some (.binary .power) else none
  | _, _ => none

/-- The comparison that some tokens begin with, and what follows it. -/
def comparison? : List Token → Option (Comparison × List Token)
  | .sign s :: rest =>
    if s == "==" then some (.equal, rest)
    else if s == "!=" then some (.unequal, rest)
    else if s == "<" then some (.less, rest)
    else if s == "<=" then some (.lessEqual, rest)
    else if s == ">" then some (.greater, rest)
    else if s == ">=" then some (.greaterEqual, rest)
    else none
  | .name "in" :: rest => some (.among, rest)
  | .name "not" :: .name "in" :: rest => some (.notAmong, rest)
  | _ => none

/-- The fixed value that a name stands for. -/
def constant? (name : String) : Option Value :=
  if name == "true" || name == "True" then some (.bool true)
  else if name == "false" || name == "False" then some (.bool false)
  else if name == "none" || name == "None" then some .nothing
  else none

/-- The value of a choice without an alternative that is not made. -/
def noChoice : Value :=
  .absent false
    "the inline if-expression on line 1 evaluated to false and no else section was defined."

/-- The texts in quotes that some tokens begin with, put together, and what follows them. -/
def takeTexts : List Token → String × List Token
  | .text s :: rest =>
    let (more, after) := takeTexts rest
    (s ++ more, after)
  | ts => ("", ts)

/-- A name with further names after points, put together, from after its first part on. -/
def takeDotted (name : String) : List Token → String × List Token
  | .sign "." :: .name more :: rest => takeDotted (name ++ "." ++ more) rest
  | ts => (name, ts)

/-- Whether some tokens begin with a sign. -/
def startsWith (sign : String) : List Token → Bool
  | .sign s :: _ => s == sign
  | _ => false

/-- What follows a sign that must come next. -/
def expect (sign : String) : List Token → Except Fault (List Token)
  | .sign s :: rest => if s == sign then .ok rest else .error (.malformed ("expected " ++ sign))
  | _ => .error (.malformed ("expected " ++ sign))

/-- Whether a tuple that is not in parentheses ends here: at the end of the tag, at a closing
parenthesis, or at one of the given words. -/
def endsTuple (words : List String) : List Token → Bool
  | [] => true
  | .sign s :: _ => s == ")"
  | .name n :: _ => words.contains n
  | _ => false

/-- The only item, unless a comma makes a tuple of it. -/
def tupleOf (items : List Expr) (isTuple : Bool) : Expr :=
  match items, isTuple with
  | [e], false => e
  | items, _ => .tuple items

/-- Whether the argument of a test follows without parentheses. -/
def startsArgument : List Token → Bool
  | .name n :: _ => n != "else" && n != "or" && n != "and"
  | .text _ :: _ => true
  | .int _ :: _ => true
  | .float _ :: _ => true
  | .sign s :: _ => s == "[" || s == "\x7b"
  | [] => false

/-- The fault of a tag in which an expression is missing. -/
def noExpression : Fault :=
  .malformed "Expected an expression"

/-- The fault of a supply that has run out. -/
def tooDeep : Fault :=
  .malformed "nested too deeply"

mutual

/-- An expression of some level, and the tokens after it. -/
def readLevel : Nat → Level → List Token → Except Fault (Expr × List Token)
  | 0, _, _ => .error tooDeep
  | n + 1, level, ts =>
    match level, ts with
    | .negation, .name "not" :: rest =>
      match readLevel n .negation rest with
      | .error fault => .error fault
      | .ok (e, rest) => .ok (.negation e, rest)
    | .operand, ts => readOperand n true ts
    | level, ts =>
      match readLevel n level.next ts with
      | .error fault => .error fault
      | .ok (e, rest) => readMore n level e rest

/-- What the operators of a level that follow an operand make of it. -/
def readMore : Nat → Level → Expr → List Token → Except Fault (Expr × List Token)
  | 0, _, _, _ => .error tooDeep
  | n + 1, level, left, ts =>
    match level, ts with
    | .choice, .name "if" :: rest =>
      match readLevel n .either rest with
      | .error fault => .error fault
      | .ok (test, .name "else" :: rest) =>
        match readLevel n .choice rest with
        | .error fault => .error fault
        | .ok (otherwise, rest) => readMore n .choice (.choice left test otherwise) rest
      | .ok (test, rest) => readMore n .choice (.choice left test (.constant noChoice)) rest
    | .comparison, ts =>
      match readComparisons n ts with
      | .error fault => .error fault
      | .ok ([], _, rest) => .ok (left, rest)
      | .ok (ops, operands, rest) => .ok (.comparison left ops operands, rest)
    | .joined, ts =>
      match readJoined n ts with
      | .error fault => .error fault
      | .ok ([], rest) => .ok (left, rest)
      | .ok (items, rest) => .ok (.joined (left :: items), rest)
    | level, token :: rest =>
      match level.operator? token with
      | none => .ok (left, token :: rest)
      | some combine =>
        match readLevel n level.next rest with
        | .error fault => .error fault
        | .ok (right, rest) => readMore n level (combine left right) rest
    | _, [] => .ok (left, [])

/-- The comparisons that follow an operand, with their operands. -/
def readComparisons :
    Nat → List Token → Except Fault (List Comparison × List Expr × List Token)
  | 0, _ => .error tooDeep
  | n + 1, ts =>
    match comparison? ts with
    | none => .ok ([], [], ts)
    | some (op, rest) =>
      match readLevel n .sum rest with
      | .error fault => .error fault
      | .ok (e, rest) =>
        match readComparisons n rest with
        | .error fault => .error fault
        | .ok (ops, operands, rest) => .ok (op :: ops, e :: operands, rest)

/-- The operands that are written after one another. -/
def readJoined : Nat → List Token → Except Fault (List Expr × List Token)
  | 0, _ => .error tooDeep
  | n + 1, ts =>
    match ts with
    | .sign "~" :: rest =>
      match readLevel n .product rest with
      | .error fault => .error fault
      | .ok (e, rest) =>
        match readJoined n rest with
        | .error fault => .error fault
        | .ok (items, rest) => .ok (e :: items, rest)
    | ts => .ok ([], ts)

/-- A value with a sign in front, with its indices and calls, and with its filters if it may
have them. -/
def readOperand : Nat → Bool → List Token → Except Fault (Expr × List Token)
  | 0, _, _ => .error tooDeep
  | n + 1, withFilters, ts =>
    let found : Except Fault (Expr × List Token) := match ts with
      | .sign "-" :: rest =>
        (readOperand n false rest).map fun (e, rest) => (.unary .minus e, rest)
      | .sign "+" :: rest =>
        (readOperand n false rest).map fun (e, rest) => (.unary .plus e, rest)
      | ts => readPrimary n ts
    match found with
    | .error fault => .error fault
    | .ok (e, rest) =>
      match readSuffixes n e rest with
      | .error fault => .error fault
      | .ok (e, rest) => if withFilters then readFilters n e rest else .ok (e, rest)

/-- A value by itself. -/
def readPrimary : Nat → List Token → Except Fault (Expr × List Token)
  | 0, _ => .error tooDeep
  | n + 1, ts =>
    match ts with
    | .name s :: rest =>
      match constant? s with
      | some v => .ok (.constant v, rest)
      | none => .ok (.name s, rest)
    | .text _ :: _ =>
      let (s, rest) := takeTexts ts
      .ok (.constant (.plain s), rest)
    | .int i :: rest => .ok (.constant (.int i), rest)
    | .float x :: rest => .ok (.constant (.float x), rest)
    | .sign "(" :: rest =>
      match readTuple n .choice true [] rest with
      | .error fault => .error fault
      | .ok (e, rest) => (expect ")" rest).map fun rest => (e, rest)
    | .sign "[" :: rest =>
      match readItems n rest with
      | .error fault => .error fault
      | .ok (items, rest) => .ok (.list items, rest)
    | .sign "\x7b" :: rest =>
      match readEntries n rest with
      | .error fault => .error fault
      | .ok (keys, values, rest) => .ok (.table keys values, rest)
    | _ => .error noExpression

/-- An expression, or a tuple of several with commas between them. In parentheses it may be
empty. -/
def readTuple :
    Nat → Level → Bool → List String → List Token → Except Fault (Expr × List Token)
  | 0, _, _, _, _ => .error tooDeep
  | n + 1, level, mayBeEmpty, words, ts =>
    match readTupleItems n level words ts with
    | .error fault => .error fault
    | .ok (items, isTuple, rest) =>
      if items.isEmpty && !mayBeEmpty then .error noExpression
      else .ok (tupleOf items isTuple, rest)

/-- The items of a tuple, and whether a comma makes it one. -/
def readTupleItems :
    Nat → Level → List String → List Token → Except Fault (List Expr × Bool × List Token)
  | 0, _, _, _ => .error tooDeep
  | n + 1, level, words, ts =>
    if endsTuple words ts then .ok ([], false, ts)
    else
      match readLevel n level ts with
      | .error fault => .error fault
      | .ok (e, .sign "," :: rest) =>
        match readTupleItems n level words rest with
        | .error fault => .error fault
        | .ok (items, _, rest) => .ok (e :: items, true, rest)
      | .ok (e, rest) => .ok ([e], false, rest)

/-- The items of a list, from after its opening bracket on. -/
def readItems : Nat → List Token → Except Fault (List Expr × List Token)
  | 0, _ => .error tooDeep
  | n + 1, ts =>
    match ts with
    | .sign "]" :: rest => .ok ([], rest)
    | ts =>
      match readLevel n .choice ts with
      | .error fault => .error fault
      | .ok (e, .sign "," :: rest) =>
        match readItems n rest with
        | .error fault => .error fault
        | .ok (items, rest) => .ok (e :: items, rest)
      | .ok (e, rest) => (expect "]" rest).map fun rest => ([e], rest)

/-- The entries of a table, from after its opening brace on. -/
def readEntries : Nat → List Token → Except Fault (List Expr × List Expr × List Token)
  | 0, _ => .error tooDeep
  | n + 1, ts =>
    match ts with
    | .sign "\x7d" :: rest => .ok ([], [], rest)
    | ts =>
      match readLevel n .choice ts with
      | .error fault => .error fault
      | .ok (key, rest) =>
        match expect ":" rest with
        | .error fault => .error fault
        | .ok rest =>
          match readLevel n .choice rest with
          | .error fault => .error fault
          | .ok (value, .sign "," :: rest) =>
            match readEntries n rest with
            | .error fault => .error fault
            | .ok (keys, values, rest) => .ok (key :: keys, value :: values, rest)
          | .ok (value, rest) => (expect "\x7d" rest).map fun rest => ([key], [value], rest)

/-- The names after points, the indices and the calls that follow a value. -/
def readSuffixes : Nat → Expr → List Token → Except Fault (Expr × List Token)
  | 0, _, _ => .error tooDeep
  | n + 1, e, ts =>
    match ts with
    | .sign "." :: .name s :: rest => readSuffixes n (.attribute e s) rest
    | .sign "." :: .int i :: rest => readSuffixes n (.item e (.constant (.int i))) rest
    | .sign "." :: _ => .error (.malformed "expected name or number")
    | .sign "[" :: rest =>
      match readIndices n rest with
      | .error fault => .error fault
      | .ok ([index], rest) => readSuffixes n (index e) rest
      | .ok (_, _) => .error (.malformed "expected one index")
    | .sign "(" :: rest =>
      match readArguments n rest with
      | .error fault => .error fault
      | .ok (arguments, names, rest) => readSuffixes n (.call e arguments names) rest
    | ts => .ok (e, ts)

/-- The indices between brackets, from after the opening one on: what each makes of a value. -/
def readIndices : Nat → List Token → Except Fault (List (Expr → Expr) × List Token)
  | 0, _ => .error tooDeep
  | n + 1, ts =>
    match readBound n ts with
    | .error fault => .error fault
    | .ok (start, .sign ":" :: rest) =>
      match readBound n rest with
      | .error fault => .error fault
      | .ok (stop, .sign ":" :: rest) =>
        match readBound n rest with
        | .error fault => .error fault
        | .ok (step, rest) =>
          (expect "]" rest).map fun rest =>
            ([fun whole => .slice whole (start.getD (.constant .nothing))
              (stop.getD (.constant .nothing)) (step.getD (.constant .nothing))], rest)
      | .ok (stop, rest) =>
        (expect "]" rest).map fun rest =>
          ([fun whole => .slice whole (start.getD (.constant .nothing))
            (stop.getD (.constant .nothing)) (.constant .nothing)], rest)
    | .ok (some key, rest) => (expect "]" rest).map fun rest => ([fun whole => .item whole key], rest)
    | .ok (none, _) => .error noExpression

/-- A bound of a part, which may be left out. -/
def readBound : Nat → List Token → Except Fault (Option Expr × List Token)
  | 0, _ => .error tooDeep
  | n + 1, ts =>
    if startsWith ":" ts || startsWith "]" ts then .ok (none, ts)
    else (readLevel n .choice ts).map fun (e, rest) => (some e, rest)

/-- The arguments of a call, from after its opening parenthesis on, and the names of the last of
them. -/
def readArguments : Nat → List Token → Except Fault (List Expr × List String × List Token)
  | 0, _ => .error tooDeep
  | n + 1, ts =>
    match ts with
    | .sign ")" :: rest => .ok ([], [], rest)
    | ts =>
      let (name?, ts) := match ts with
        | .name s :: .sign "=" :: rest => (some s, rest)
        | ts => (none, ts)
      match readLevel n .choice ts with
      | .error fault => .error fault
      | .ok (e, rest) =>
        let after : Except Fault (List Expr × List String × List Token) := match rest with
          | .sign "," :: rest => readArguments n rest
          | rest => (expect ")" rest).map fun rest => ([], [], rest)
        match after with
        | .error fault => .error fault
        | .ok (more, names, rest) =>
          match name? with
          | some s =>
            if more.length == names.length then .ok (e :: more, s :: names, rest)
            else .error (.malformed "a named argument must not come before one without a name")
          | none => .ok (e :: more, names, rest)

/-- The filters, tests and calls that follow a value. -/
def readFilters : Nat → Expr → List Token → Except Fault (Expr × List Token)
  | 0, _, _ => .error tooDeep
  | n + 1, e, ts =>
    match ts with
    | .sign "|" :: .name s :: rest =>
      let (name, rest) := takeDotted s rest
      match rest with
      | .sign "(" :: rest =>
        match readArguments n rest with
        | .error fault => .error fault
        | .ok (arguments, names, rest) => readFilters n (.filter e name arguments names) rest
      | rest => readFilters n (.filter e name [] []) rest
    | .sign "|" :: _ => .error (.malformed "expected the name of a filter")
    | .name "is" :: .name "not" :: rest =>
      match readTest n e rest with
      | .error fault => .error fault
      | .ok (e, rest) => readFilters n (.negation e) rest
    | .name "is" :: rest =>
      match readTest n e rest with
      | .error fault => .error fault
      | .ok (e, rest) => readFilters n e rest
    | .sign "(" :: rest =>
      match readArguments n rest with
      | .error fault => .error fault
      | .ok (arguments, names, rest) => readFilters n (.call e arguments names) rest
    | ts => .ok (e, ts)

/-- A test of a value, from its name on. -/
def readTest : Nat → Expr → List Token → Except Fault (Expr × List Token)
  | 0, _, _ => .error tooDeep
  | n + 1, e, ts =>
    match ts with
    | .name s :: rest =>
      let (name, rest) := takeDotted s rest
      match rest with
      | .sign "(" :: rest =>
        match readArguments n rest with
        | .error fault => .error fault
        | .ok (arguments, names, rest) => .ok (.test e name arguments names, rest)
      | .name "is" :: _ => .error (.malformed "You cannot chain multiple tests with is")
      | rest =>
        if startsArgument rest then
          match readPrimary n rest with
          | .error fault => .error fault
          | .ok (argument, rest) =>
            match readSuffixes n argument rest with
            | .error fault => .error fault
            | .ok (argument, rest) => .ok (.test e name [argument] [], rest)
        else .ok (.test e name [] [], rest)
    | _ => .error (.malformed "expected the name of a test")

end

/-- A supply that is large enough to read some tokens. -/
def supply (ts : List Token) : Nat :=
  16 * (ts.length + 1)

/-- The expression or tuple that begins some tokens, its items of the given level, and the tokens
after it. -/
def readExpression (level : Level) (words : List String) (ts : List Token) :
    Except Fault (Expr × List Token) :=
  readTuple (supply ts) level false words ts

end ReleaseNotes.Template
