import ReleaseNotes.Text.Likeness
import ReleaseNotes.Text.Quoted

/-!
# The command line

Some of the arguments of a command are options. A long option begins with two dashes, and its value
follows after `=` or as the next argument. Short options have one dash and one letter; several of them
may share a dash, and a value may follow the letter of the last one at once. All arguments after `--`
are no options.
-/

namespace ReleaseNotes.Command

/-- An option that a command knows. -/
structure OptionRule where
  /-- The long name with its dashes. -/
  name : String
  /-- The letter of the short name. -/
  letter? : Option Char
  /-- Whether it has a value. -/
  hasValue : Bool := false
  deriving DecidableEq, Repr

/-- An option that is given. -/
structure GivenOption where
  /-- The long name. -/
  name : String
  /-- The value, if it has one. -/
  value? : Option String := none
  deriving DecidableEq, Repr

/-- What is wrong with a command line. -/
inductive LineFault where
  /-- There is no such option, but there are others like it. -/
  | noOption (name : String) (alike : List String)
  /-- The option needs a value. -/
  | noValue (name : String)
  /-- The option has no value. -/
  | strayValue (name : String)
  /-- The path that is the value of the option does not exist. -/
  | noPath (names path : String)
  /-- There are too many arguments. -/
  | tooMany (extra : List String)
  /-- There is no command. -/
  | noCommand
  /-- There is no such command, but there are others like it. -/
  | unknownCommand (name : String) (alike : List String)
  deriving DecidableEq, Repr

/-- Names that may have been meant. -/
def meant : List String → String
  | [] => ""
  | [name] => " Did you mean " ++ Text.quoted name ++ "?"
  | names => " (Did you mean one of: " ++ ", ".intercalate (names.map Text.quoted) ++ "?)"

/-- The wording of a fault. -/
def LineFault.message : LineFault → String
  | .noOption name alike => "No such option " ++ Text.quoted name ++ "." ++ meant alike
  | .noValue name => "Option " ++ Text.quoted name ++ " requires an argument."
  | .strayValue name => "Option " ++ Text.quoted name ++ " does not take a value."
  | .noPath names path =>
    "Invalid value for " ++ names ++ ": Path " ++ Text.quoted path ++ " does not exist."
  | .tooMany extra =>
    "Got unexpected extra argument" ++ (if extra.length == 1 then "" else "s") ++
      " (" ++ " ".intercalate extra ++ ")"
  | .noCommand => "Missing command."
  | .unknownCommand name alike =>
    "No such command " ++ Text.quoted name ++ "." ++ meant alike

/-- Whether a fault is about the command that it is found in, and not about a single option. -/
def LineFault.showsUsage : LineFault → Bool
  | .noValue _ | .strayValue _ => false
  | _ => true

/-- The options in an argument: those that are complete, and one whose value is the next argument,
if there is one, with the name it is given by. -/
structure Found where
  /-- The complete options. -/
  given : List GivenOption := []
  /-- The option without its value, and how it is written. -/
  waiting? : Option (OptionRule × String) := none
  deriving DecidableEq, Repr

/-- The options in an argument with two dashes. -/
def readLong (rules : List OptionRule) (argument : String) : Except LineFault Found :=
  let name := String.ofList (argument.toList.takeWhile (· != '='))
  let value? := match argument.toList.dropWhile (· != '=') with
    | _ :: value => some (String.ofList value)
    | [] => none
  match rules.find? (·.name == name), value? with
  | none, _ => .error (.noOption name ((rules.map OptionRule.name).filter (Text.isLike · name)))
  | some rule, some value =>
    if rule.hasValue then .ok ⟨[⟨rule.name, some value⟩], none⟩ else .error (.strayValue name)
  | some rule, none =>
    if rule.hasValue then .ok ⟨[], some (rule, name)⟩ else .ok ⟨[⟨rule.name, none⟩], none⟩

/-- The options in an argument with one dash, read from after the dash on. -/
def readShort (rules : List OptionRule) : List Char → Except LineFault Found
  | [] => .ok {}
  | c :: rest =>
    let name := String.ofList ['-', c]
    match rules.find? (·.letter? == some c) with
    | none => .error (.noOption name [])
    | some rule =>
      if rule.hasValue then
        if rest.isEmpty then .ok ⟨[], some (rule, name)⟩
        else .ok ⟨[⟨rule.name, some (String.ofList rest)⟩], none⟩
      else (readShort rules rest).map fun found => { found with given := ⟨rule.name, none⟩ :: found.given }

/-- A command line that has been read. -/
structure Parsed where
  /-- The options. -/
  options : List GivenOption := []
  /-- The other arguments. -/
  others : List String := []
  deriving DecidableEq, Repr

/-- A command line with some options in front. -/
def Parsed.withOptions (options : List GivenOption) (p : Parsed) : Parsed :=
  { p with options := options ++ p.options }

/-- A command line with another argument in front. -/
def Parsed.withOther (argument : String) (p : Parsed) : Parsed :=
  { p with others := argument :: p.others }

/-- Reads a command line. If the arguments are not `mixed`, then no option stands after the first
argument that is none. `waiting?` is an option whose value comes next. -/
def readLine (rules : List OptionRule) (mixed : Bool) (waiting? : Option (OptionRule × String)) :
    List String → Except LineFault Parsed
  | [] =>
    match waiting? with
    | some (_, name) => .error (.noValue name)
    | none => .ok {}
  | argument :: rest =>
    match waiting? with
    | some (rule, _) =>
      (readLine rules mixed none rest).map (Parsed.withOptions [⟨rule.name, some argument⟩])
    | none =>
      if argument == "--" then .ok ⟨[], rest⟩
      else
        let read (found : Except LineFault Found) : Except LineFault Parsed := do
          let found ← found
          let parsed ← readLine rules mixed found.waiting? rest
          .ok (parsed.withOptions found.given)
        match argument.toList with
        | '-' :: '-' :: _ => read (readLong rules argument)
        | '-' :: c :: letters => read (readShort rules (c :: letters))
        | _ =>
          if mixed then (readLine rules mixed none rest).map (Parsed.withOther argument)
          else .ok ⟨[], argument :: rest⟩

/-- Whether an option is given. -/
def Parsed.has (p : Parsed) (name : String) : Bool :=
  p.options.any (·.name == name)

/-- The last value that is given for an option. -/
def Parsed.value? (p : Parsed) (name : String) : Option String :=
  (p.options.reverse.find? (·.name == name)).bind GivenOption.value?

end ReleaseNotes.Command
