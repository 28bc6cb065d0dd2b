import ReleaseNotes.Data.Check
import ReleaseNotes.Data.Toml.Document
import ReleaseNotes.Files
import ReleaseNotes.Settings.Basic

/-!
# Reading settings

Settings are read from a table of data with a part for each group of them. A tracker address that
is left out may come from the environment. The templates are checked once everything else about the
wording is right, and only the first bad one counts: it is complained about, unless the language of
the templates fails in a way for which no complaint is made, which stops the reading altogether.
-/

namespace ReleaseNotes

open Data

/-- Why there are no settings. -/
inductive SettingsFault where
  /-- The file does not exist. -/
  | missing (path : String)
  /-- The file cannot be read. -/
  | unreadable (path : String) (fault : PathFault)
  /-- The file is no text. -/
  | notText
  /-- The file is no TOML document. -/
  | malformed (fault : Toml.Fault)
  /-- The part about the tracker is no table. -/
  | noTracker
  /-- The language fails at a template in a way that is no complaint. -/
  | stray (fault : Template.Fault)
  /-- Something is wrong with the values. -/
  | complaints (found : List Complaint)
  deriving Repr

/-- The wording of a fault. -/
def SettingsFault.message : SettingsFault → String
  | .missing path => "Config file not found: " ++ path
  | .unreadable path fault => fault.message path
  | .notText => "invalid utf-8"
  | .malformed fault => fault.message
  | .noTracker => "tracker is no table"
  | .stray fault => fault.message "template"
  | .complaints found =>
    let count := found.length
    toString count ++ " validation error" ++ (if count == 1 then "" else "s") ++
      " for Config\n" ++ "\n".intercalate (found.map Complaint.message)

/-- What settings are read with. -/
structure SettingsReader where
  /-- The table that a document is. -/
  document : List Char → Except Toml.Fault Table := Toml.read
  /-- The language of the templates. -/
  language : Template.Language := Template.core

/-! ### The parts -/

/-- The addresses of the tracker in a table. -/
def TrackerSettings.read (t : Table) : Checked TrackerSettings :=
  let first : TrackerSettings := {}
  Checked.pure TrackerSettings.mk
    |>.both (t.defaulted "base_url" first.baseUrl Value.asText)
    |>.both (t.defaulted "browse_url" none (Value.asOptional Value.asText))
    |>.both (t.defaulted "attachment_url" none (Value.asOptional Value.asText))
    |>.both (t.defaulted "note_filename" first.noteFilename Value.asText)
    |>.both (t.defaulted "timeout" none (Value.asOptional Value.asFloat))

/-- The wording in a table, whatever its templates are. -/
def WordingSettings.read (t : Table) : Checked WordingSettings :=
  let first : WordingSettings := {}
  Checked.pure WordingSettings.mk
    |>.both (t.defaulted "product_name" first.product Value.asText)
    |>.both (t.defaulted "table_border_width" first.borderWidth Value.asInteger)
    |>.both (t.defaulted "missing_note_placeholder" first.missingNote Value.asText)
    |>.both (t.defaulted "title_template" first.title Value.asText)
    |>.both (t.defaulted "delta_template" first.delta Value.asText)
    |>.both (t.defaulted "bug_fixes_template" first.bugFixes Value.asText)
    |>.both (t.defaulted "issues_template" first.issues Value.asText)
    |>.both (t.defaulted "environment_template" first.environment Value.asText)
    |>.both (t.defaulted "branch_template" first.branch Value.asText)

/-- The wording in a table, if all of its templates can be used. -/
def WordingSettings.readChecked (language : Template.Language) (t : Table) : Checked WordingSettings :=
  match WordingSettings.read t with
  | .error found => .error found
  | .ok w =>
    match w.firstFault? language with
    | none => .ok w
    | some (name, fault) => .error [⟨[], .refused (fault.message name)⟩]

/-- How the pamphlet is written, in a table. -/
def OutputSettings.read (t : Table) : Checked OutputSettings :=
  let first : OutputSettings := {}
  let formats := Format.all.map fun f => (f.label, f)
  Checked.pure OutputSettings.mk
    |>.both (t.defaulted "method" first.format (Value.asOneOf formats))
    |>.both (t.defaulted "pretty_print" first.isIndented Value.asSwitch)

/-- The files in a table. -/
def PathSettings.read (t : Table) : Checked PathSettings :=
  let path (name : String) : Checked (Option String) :=
    t.defaulted name none (Value.asOptional Value.asText)
  Checked.pure PathSettings.mk
    |>.both (path "summary")
    |>.both (path "bug_list")
    |>.both (path "notes_list")
    |>.both (path "pamphlet")

/-! ### The whole -/

/-- The name of the part about the tracker. -/
def trackerPart : String := "tracker"

/-- The name of the part about the wording. -/
def wordingPart : String := "pamphlet"

/-- The name of the address from which the others derive. -/
def baseUrlField : String := "base_url"

/-- The fault of the first bad template, if no complaint is made about it. -/
def strayFault? (language : Template.Language) (t : Table) : Option Template.Fault :=
  match t.part wordingPart WordingSettings.read with
  | .error _ => none
  | .ok w =>
    match w.firstFault? language with
    | some (_, fault) => if fault.isComplaint then none else some fault
    | none => none

/-- All settings in a table. -/
def Settings.check (language : Template.Language) (t : Table) : Checked Settings :=
  let first : Settings := {}
  Checked.pure (fun version tracker wording output paths => ⟨version, tracker, wording, output, paths, language⟩)
    |>.both (t.defaulted "config_version" first.version Value.asText)
    |>.both (t.part trackerPart TrackerSettings.read)
    |>.both (t.part wordingPart (WordingSettings.readChecked language))
    |>.both (t.part "output" OutputSettings.read)
    |>.both (t.part "paths" PathSettings.read)

/-- A table in which the tracker's address comes from the environment if it is left out. -/
def withEnvironment (environment? : Option String) (t : Table) : Except SettingsFault Table :=
  match (t.get? trackerPart).getD (.table []) with
  | .table tracker =>
    let isGiven := ((Table.get? tracker baseUrlField).map Value.isSet).getD false
    match isGiven, filled? environment? with
    | false, some url =>
      .ok (t.put trackerPart (.table (Table.put baseUrlField (.text url) tracker)))
    | _, _ => .ok t
  | _ => .error .noTracker

/-- The settings in a table. -/
def Settings.ofTable (environment? : Option String) (t : Table) (language : Template.Language := Template.core) :
    Except SettingsFault Settings := do
  let t ← withEnvironment environment? t
  match strayFault? language t with
  | some fault => .error (.stray fault)
  | none =>
    match Settings.check language t with
    | .ok s => .ok s
    | .error found => .error (.complaints found)

/-- The settings in a file. -/
def Settings.ofFile (files : Files) (environment? : Option String) (path : String)
    (reader : SettingsReader := {}) : Except SettingsFault Settings :=
  if !files.includes (tidyPath path) then .error (.missing path)
  else match files.read (tidyPath path) with
    | .error fault => .error (.unreadable path fault)
    | .ok octets =>
      match Text.ofUtf8? octets with
      | none => .error .notText
      | some cs =>
        match reader.document cs with
        | .error fault => .error (.malformed fault)
        | .ok t => Settings.ofTable environment? t reader.language

/-- The file with settings that is made. -/
def settingsFile : String := "release_pamphlet.toml"

/-- The files that may hold settings, the first that exists counts. -/
def settingsFiles : List String :=
  [settingsFile, "." ++ settingsFile, "config/" ++ settingsFile]

/-- The settings in the file that is named, or else in one of those that may hold them, or else
those to take when nothing is chosen. -/
def Settings.load (files : Files) (environment? path? : Option String) (reader : SettingsReader := {}) :
    Except SettingsFault Settings :=
  match (filled? path?).or (settingsFiles.find? files.includes) with
  | some path => Settings.ofFile files environment? path reader
  | none => Settings.ofTable environment? [] reader.language

end ReleaseNotes
