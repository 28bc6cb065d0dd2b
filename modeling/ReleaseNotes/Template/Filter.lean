import ReleaseNotes.Number.Whole
import ReleaseNotes.Template.Operation
import ReleaseNotes.Text.Case

/-!
# Filters, tests and functions

What the filters of the language make of a value (`applyFilter`), which values pass its
tests (`passesTest`), and what its functions give (`applyFunction`). Arguments stand in order
or have names, like the parameters they are bound to (`bindArguments`).
-/

namespace ReleaseNotes.Template

/-- The arguments of a filter, a test or a function. -/
structure Arguments where
  /-- The arguments without a name, in order. -/
  inOrder : List Value
  /-- The arguments with a name. -/
  named : List (String × Value)

/-- The arguments whose last ones have the given names. -/
def Arguments.ofList (values : List Value) (names : List String) : Arguments :=
  let count := values.length - names.length
  ⟨values.take count, names.zip (values.drop count)⟩

/-- An argument without a name is bound to each parameter first, and one with its name to the
others. -/
def bindFrom (named : List (String × Value)) : List String → List Value → List (Option Value)
  | [], _ => []
  | _ :: params, v :: inOrder => some v :: bindFrom named params inOrder
  | p :: params, [] => named.lookup p :: bindFrom named params []

/-- The argument for each of some parameters, the first `least` of which must have one. No argument
may be left over. -/
def bindArguments (least : Nat) (params : List String) (given : Arguments) :
    Except Fault (List (Option Value)) :=
  let bound := bindFrom given.named params given.inOrder
  let free := params.drop given.inOrder.length
  if params.length < given.inOrder.length then .error .mismatched
  else if given.named.any fun e => !free.contains e.1 then .error .mismatched
  else if (bound.take least).any Option.isNone then .error .mismatched
  else .ok bound

/-- An argument, or a value to take when it is not there. -/
def argument (bound : List (Option Value)) (i : Nat) (default : Value) : Value :=
  (bound[i]?.join).getD default

/-! ### Texts -/

/-- A value as a text, and whether that is escaped. -/
def Value.softText : Value → Except Fault (String × Bool)
  | .text s isEscaped => .ok (s, isEscaped)
  | v => v.written.map fun s => (s, false)

/-- A value as a text whose characters are changed. -/
def mapText (change : List Char → List Char) (v : Value) : Except Fault Value :=
  v.softText.map fun (s, isEscaped) => .text (String.ofList (change s.toList)) isEscaped

/-- A text with its first letter in upper case and all others in lower case. -/
def capitalized : List Char → List Char
  | [] => []
  | c :: rest => Text.titleChar c ++ Text.lowerFrom [c] rest

/-- A word with its first letter in upper case and all others in lower case, read by themselves. -/
def titleWord : List Char → List Char
  | [] => []
  | c :: rest => Text.upperChar c ++ Text.lower rest

/-- Whether a word of a title begins after a character. -/
def endsWord (c : Char) : Bool :=
  Text.isBlank c || ['-', '(', '\x7b', '[', '<'].contains c

/-- A text as a title. `word` holds the word that has begun, newest character first. -/
def titleFrom (word : List Char) : List Char → List Char
  | [] => titleWord word.reverse
  | c :: rest =>
    if endsWord c then titleWord word.reverse ++ c :: titleFrom [] rest
    else titleFrom (c :: word) rest

/-- A text without some characters at its ends. -/
def stripped (chars : List Char) (cs : List Char) : List Char :=
  Text.dropWhileEnd chars.contains (cs.dropWhile chars.contains)

/-- A text with the first `limit` occurrences of another one replaced, those of the empty text
being the places between characters. `skip` counts the characters of an occurrence that are still
to be passed over. -/
def replaceFrom (old new : List Char) (skip limit : Nat) : List Char → List Char
  | [] => if old.isEmpty && limit != 0 then new else []
  | c :: rest =>
    if skip != 0 then replaceFrom old new (skip - 1) limit rest
    else if limit != 0 && old.isPrefixOf (c :: rest) then
      if old.isEmpty then new ++ c :: replaceFrom old new 0 (limit - 1) rest
      else new ++ replaceFrom old new (old.length - 1) (limit - 1) rest
    else c :: replaceFrom old new 0 limit rest

/-- The value with some occurrences of a text replaced. -/
def replaced (v old new count : Value) : Except Fault Value := do
  let s ← v.written
  let old ← old.written
  let new ← new.written
  let finish (limit : Nat) : Value :=
    .plain (String.ofList (replaceFrom old.toList new.toList 0 limit s.toList))
  match count with
  | .nothing => .ok (finish (s.length + 1))
  | count =>
    match count.integer? with
    | some n => .ok (finish (if n < 0 then s.length + 1 else n.toNat))
    | none => .error .mismatched

/-- The value without some characters at its ends, or without the blanks there. -/
def trimmed (v chars : Value) : Except Fault Value :=
  match chars with
  | .nothing => mapText Text.trim v
  | .text s _ => mapText (stripped s.toList) v
  | _ => v.softText.bind fun _ => .error .mismatched

/-! ### Lists -/

/-- The parts of a dotted path: a part of digits is a position. -/
def pathParts (s : String) : List Value :=
  (s.splitOn ".").map fun part =>
    match part.toList.mapM Number.asciiDigit? with
    | some (d :: digits) => .int (Text.ofDigits 10 (d :: digits))
    | _ => .plain part

/-- The path that an argument asks for. -/
def Value.path : Value → List Value
  | .nothing => []
  | .text s _ => pathParts s
  | v => [v]

/-- What a value has at the end of a path. -/
def Value.follow (path : List Value) (v : Value) : Except Fault Value :=
  path.foldlM Value.item v

/-- Values written one after the other with a text between them. -/
def joined (v between path : Value) : Except Fault Value := do
  let between ← between.written
  let items ← v.items
  let texts ← items.mapM fun item => (item.follow path.path).bind Value.written
  .ok (.plain (between.intercalate texts))

/-- The first item of a value. -/
def firstItem (v : Value) : Except Fault Value :=
  v.items.map fun items =>
    items.head?.getD (.absent true "No first item, sequence was empty.")

/-- The items of a value that can be gone through backwards. -/
def Value.itemsBackwards : Value → Except Fault (List Value)
  | .pass _ => .error .mismatched
  | v => v.items.map List.reverse

/-- The last item of a value. -/
def lastItem (v : Value) : Except Fault Value :=
  v.itemsBackwards.map fun items =>
    items.head?.getD (.absent true "No last item, sequence was empty.")

/-- A value the other way round. -/
def reversed : Value → Except Fault Value
  | .text s isEscaped => .ok (.text (String.ofList s.toList.reverse) isEscaped)
  | .pass items => .ok (.list items.reverse)
  | v =>
    match v.itemsBackwards with
    | .ok items => .ok (.pass items)
    | .error .mismatched => .error .notIterable
    | .error fault => .error fault

/-- A text in lower case, or any other value as it is. -/
def ignoringCase : Value → Value
  | .text s isEscaped => .text (String.ofList (Text.lower s.toList)) isEscaped
  | v => v

/-- Whether one key of a sort comes before another. Equal keys do not. -/
def keyBefore (v w : Value) : Except Fault Bool :=
  lessAll [v] [w]

/-- Puts an item after all that do not come after it. The items are in order, last first. -/
def insertItem (item : Value × Value) : List (Value × Value) → Except Fault (List (Value × Value))
  | [] => .ok [item]
  | other :: rest => do
    if ← keyBefore item.1 other.1 then (insertItem item rest).map (other :: ·)
    else .ok (item :: other :: rest)

/-- Items with their keys, in the order of the keys. Those with equal keys keep their order. -/
def sortItems (items : List (Value × Value)) : Except Fault (List (Value × Value)) :=
  (items.foldlM (fun sorted item => insertItem item sorted) []).map List.reverse

/-- The items of a value in order. -/
def sorted (v isReverse isExact path : Value) : Except Fault Value := do
  let isExact ← isExact.isTrue
  let items ← v.items
  let keyed ← items.mapM fun item =>
    (item.follow path.path).map fun key => (if isExact then key else ignoringCase key, item)
  match isReverse.integer? with
  | none => .error .mismatched
  | some n => do
    let found ← sortItems (if n == 0 then keyed else keyed.reverse)
    let found := found.map Prod.snd
    .ok (.list (if n == 0 then found else found.reverse))

/-! ### Numbers -/

/-- The integer that a text is in a base, or the whole part of the number that it is. -/
def textInteger? (cs : List Char) (base : Value) : Option Int :=
  let inBase := match base.integer? with
    | some base => if base < 0 then none else Number.integerIn? base.toNat cs
    | none => none
  inBase.or ((Number.looseFloat? cs).bind Number.truncated?)

/-- A value as an integer, or a value to take when it cannot be one. -/
def asInteger (v default base : Value) : Except Fault Value :=
  match v with
  | .absent _ reason => .error (.undefined reason)
  | .text s _ => .ok (((textInteger? s.toList base).map .int).getD default)
  | v =>
    match v.number? with
    | some (.int n) => .ok (.int n)
    | some (.float x) =>
      match Number.truncated? x with
      | some n => .ok (.int n)
      | none => if x.isInf then .error .tooLarge else .ok default
    | none => .ok default

/-! ### Filters -/

/-- Whether a value is absent. -/
def Value.isAbsent : Value → Bool
  | .absent _ _ => true
  | _ => false

/-- A value, or another one to take when it is absent or, if so wanted, counts as false. -/
def defaulted (v default isLoose : Value) : Except Fault Value :=
  if v.isAbsent then .ok default
  else do
    if ← isLoose.isTrue then
      if ← v.isTrue then .ok v else .ok default
    else .ok v

/-- A value as a text that is escaped. -/
def escaped (v : Value) : Except Fault Value :=
  v.softText.map fun (s, isEscaped) => .text (escapeOnce s isEscaped) true

/-- A filter: the parameters after the value, how many of them must be given, and what it makes of
a value and the arguments. -/
structure Filter where
  /-- The names of the parameters after the value. -/
  params : List String
  /-- How many of them must be given. -/
  least : Nat
  /-- What the filter makes of a value. -/
  apply : Value → List (Option Value) → Except Fault Value

/-- A filter without parameters. -/
def Filter.simple (apply : Value → Except Fault Value) : Filter :=
  ⟨[], 0, fun v _ => apply v⟩

/-- The filters. The whole language has more of them. -/
def filters : List (String × Filter) :=
  let byDefault : Filter := ⟨["default_value", "boolean"], 0, fun v bound =>
    defaulted v (argument bound 0 (.plain "")) (argument bound 1 (.bool false))⟩
  [("default", byDefault),
   ("d", byDefault),
   ("escape", .simple escaped),
   ("e", .simple escaped),
   ("upper", .simple (mapText Text.upper)),
   ("lower", .simple (mapText Text.lower)),
   ("capitalize", .simple (mapText capitalized)),
   ("title", .simple fun v =>
      v.softText.map fun (s, _) => .plain (String.ofList (titleFrom [] s.toList))),
   ("trim", ⟨["chars"], 0, fun v bound => trimmed v (argument bound 0 .nothing)⟩),
   ("length", .simple fun v => v.size.map fun n => .int n),
   ("join", ⟨["d", "attribute"], 0, fun v bound =>
      joined v (argument bound 0 (.plain "")) (argument bound 1 .nothing)⟩),
   ("first", .simple firstItem),
   ("last", .simple lastItem),
   ("replace", ⟨["old", "new", "count"], 2, fun v bound =>
      replaced v (argument bound 0 .nothing) (argument bound 1 .nothing)
        (argument bound 2 .nothing)⟩),
   ("sort", ⟨["reverse", "case_sensitive", "attribute"], 0, fun v bound =>
      sorted v (argument bound 0 (.bool false)) (argument bound 1 (.bool false))
        (argument bound 2 .nothing)⟩),
   ("reverse", .simple reversed),
   ("int", ⟨["default", "base"], 0, fun v bound =>
      asInteger v (argument bound 0 (.int 0)) (argument bound 1 (.int 10))⟩),
   ("string", .simple fun v => v.softText.map fun (s, isEscaped) => .text s isEscaped)]

/-- Whether there is a filter with a name. -/
def isFilter (name : String) : Bool :=
  (filters.lookup name).isSome

/-- What a filter makes of a value. -/
def applyFilter (name : String) (v : Value) (given : Arguments) : Except Fault Value :=
  match filters.lookup name with
  | none => .error .unknownHelper
  | some filter => do
    let bound ← bindArguments filter.least filter.params given
    filter.apply v bound

/-! ### Tests -/

/-- The tests. The whole language has more of them. -/
def tests : List (String × (Value → Bool)) :=
  [("defined", fun v => !v.isAbsent),
   ("undefined", Value.isAbsent),
   ("none", fun v => match v with
      | .nothing => true
      | _ => false)]

/-- Whether there is a test with a name. -/
def isTest (name : String) : Bool :=
  (tests.lookup name).isSome

/-- Whether a value passes a test. -/
def passesTest (name : String) (v : Value) (given : Arguments) : Except Fault Bool :=
  match tests.lookup name with
  | none => .error .unknownHelper
  | some passes => (bindArguments 0 [] given).map fun _ => passes v

/-! ### Functions -/

/-- The names that the language itself gives values to. -/
def globalNames : List String :=
  ["range", "dict", "lipsum", "cycler", "joiner", "namespace"]

/-- The range with some bounds. -/
def rangeOf (bounds : List Value) : Except Fault Value :=
  match bounds.mapM Value.integer? with
  | some [stop] => .ok (.range 0 stop 1)
  | some [start, stop] => .ok (.range start stop 1)
  | some [start, stop, step] => if step == 0 then .error .unfit else .ok (.range start stop step)
  | _ => .error .mismatched

/-- The value of a function of the language. -/
def applyFunction (name : String) (given : Arguments) : Except Fault Value :=
  if name == "range" then
    if given.named.isEmpty then rangeOf given.inOrder else .error .mismatched
  else if name == "dict" && given.inOrder.isEmpty then
    .ok (.table (given.named.map fun e => .plain e.1) (given.named.map Prod.snd))
  else .error .mismatched

/-- The value of a value that is applied. -/
def applyValue (v : Value) (given : Arguments) : Except Fault Value :=
  match v with
  | .function name => applyFunction name given
  | .absent _ reason => .error (.undefined reason)
  | _ => .error .mismatched

end ReleaseNotes.Template
