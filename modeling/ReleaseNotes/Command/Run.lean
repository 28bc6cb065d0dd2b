import ReleaseNotes.Command.Generate
import ReleaseNotes.Command.Line
import ReleaseNotes.Command.MakeSettings

/-!
# A run of the program

The arguments name options of the program, a command, and what belongs to the command. The settings
are read once it is clear which command is meant, and before its own arguments are looked at; the
command that makes a file with settings does without them.
-/

namespace ReleaseNotes.Command

/-! ### Options -/

/-- The option with the path of the settings. -/
def configName : String := "--config"

/-- The option that answers every question with yes. -/
def agreeName : String := "--assume-yes"

/-- The option that shows every step. -/
def debugName : String := "--debug"

/-- The option that shows a page of help. -/
def helpName : String := "--help"

/-- The option that shows a page of help. -/
def helpRule : OptionRule := { name := helpName, letter? := some 'h' }

/-- The option that answers every question with yes. -/
def agreeRule : OptionRule := { name := agreeName, letter? := some 'y' }

/-- The option that shows every step. -/
def debugRule : OptionRule := { name := debugName, letter? := none }

/-- The option with the path of the settings. -/
def configRule : OptionRule := { name := configName, letter? := some 'c', hasValue := true }

/-- The names of the option with the path of the settings. -/
def configNames : String := "'--config' / '-c'"

/-- The options of a part of the program. -/
def Topic.rules : Topic → List OptionRule
  | .program => [configRule, agreeRule, debugRule, helpRule]
  | .generate => [debugRule, helpRule]
  | .makeSettings => [agreeRule, helpRule]

/-! ### Arguments -/

/-- Ends the run because something is wrong with the arguments. -/
def refuse {α : Type} (t : Topic) (fault : LineFault) : Commanding α :=
  let usage := if fault.showsUsage then [t.usage, t.advice, ""] else []
  complain 2 (usage ++ ["Error: " ++ fault.message])

/-- Reads the arguments of a part of the program, and shows its page of help if asked to. -/
def readArguments (t : Topic) (arguments : List String) : Commanding Parsed := do
  match readLine t.rules (t != .program) none arguments with
  | .error fault => refuse t fault
  | .ok parsed =>
    if parsed.has helpName then
      tellPlainly (t.page ++ "\n")
      throw (.exit 0)
    return parsed

/-- Reads the arguments of the program. The path of the settings must exist. -/
def readProgram (arguments : List String) : Commanding Parsed := do
  let parsed ← readArguments .program arguments
  match parsed.value? configName with
  | some path =>
    if (← get).files.includes path then return parsed
    else refuse .program (.noPath configNames path)
  | none => return parsed

/-- The command with a name. -/
def topic? (name : String) : Option Topic :=
  if name == generateName then some .generate
  else if name == makeSettingsName then some .makeSettings
  else none

/-- The command that the arguments name, and its own arguments. One that looks like an option is read
as such before it is refused. -/
def resolveCommand (arguments : List String) : Commanding (Topic × List String) := do
  match arguments with
  | [] => refuse .program .noCommand
  | name :: rest =>
    match topic? name with
    | some t => return (t, rest)
    | none =>
      if name.startsWith "-" then
        let _ ← readProgram arguments
      refuse .program (.unknownCommand name (commandNames.filter (Text.isLike · name)))

/-! ### The program -/

/-- What surrounds a run of the program. -/
structure Surroundings where
  /-- The arguments. -/
  arguments : List String
  /-- The address of the tracker in the environment. -/
  trackerUrl? : Option String
  /-- The lines that are typed. -/
  input : List String
  /-- What the network answers. -/
  web : Web
  /-- What settings are read with. -/
  reader : SettingsReader := {}

/-- The wording of a fault of the settings that is reported. Other faults break the run off. -/
def settingsReport? : SettingsFault → Option String
  | .missing path => some (SettingsFault.message (.missing path))
  | .notText => some (SettingsFault.message .notText)
  | .malformed fault =>
    match fault with
    | .malformed _ | .oversized => some (SettingsFault.message (.malformed fault))
    | .tooDeep => none
  | .complaints found => some (SettingsFault.message (.complaints found))
  | .unreadable _ _ | .noTracker | .stray _ => none

/-- Loads the settings. -/
def loadSettings (reader : SettingsReader) (trackerUrl? path? : Option String) : Commanding Settings := do
  match Settings.load (← get).files trackerUrl? path? reader with
  | .ok settings => return settings
  | .error fault =>
    match settingsReport? fault with
    | none => throw (.settings fault)
    | some wording =>
      tellIn "red" ("Error: " ++ Terminal.escaped wording)
      throw (.exit 1)

/-- Generates a pamphlet as the arguments say. -/
def runGenerate (s : Surroundings) (program : Parsed) (arguments : List String) :
    Commanding Unit := do
  let settings ← loadSettings s.reader s.trackerUrl? (program.value? configName)
  let parsed ← readArguments .generate arguments
  let isTalkative := parsed.has debugName || program.has debugName
  generate ⟨settings, fetch settings.tracker s.web, isTalkative⟩ parsed.others

/-- Makes a file with settings as the arguments say. -/
def runMakeSettings (s : Surroundings) (program : Parsed) (arguments : List String) :
    Commanding Unit := do
  let parsed ← readArguments .makeSettings arguments
  if !parsed.others.isEmpty then refuse .makeSettings (.tooMany parsed.others)
  makeSettings (parsed.has agreeName || program.has agreeName) s.input

/-- All that the program does. -/
def program (s : Surroundings) : Commanding Unit := do
  if s.arguments.isEmpty then complain 2 [Topic.page .program]
  let parsed ← readProgram s.arguments
  let (t, arguments) ← resolveCommand parsed.others
  match t with
  | .makeSettings => runMakeSettings s parsed arguments
  | _ => runGenerate s parsed arguments

/-- Runs the program on some files: how it ends, and what it has done. -/
def run (s : Surroundings) (files : Files) : Ending × Progress :=
  match (program s).run.run { files := files } with
  | (.ok _, p) => (.exit 0, p)
  | (.error ending, p) => (ending, p)

end ReleaseNotes.Command
