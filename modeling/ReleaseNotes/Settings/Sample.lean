import ReleaseNotes.Settings.Read

/-!
# A sample of settings

A file with all settings to begin with, each with the value that it has when nothing is chosen. The
paths have no such values, so they are only mentioned.
-/

namespace ReleaseNotes

/-- A character as it is written inside of a quoted text. -/
def sampleChar (c : Char) : List Char :=
  if c == '\x22' || c == '\\' then ['\\', c] else [c]

/-- A quoted text. -/
def sampleText (s : String) : String :=
  "\"" ++ String.ofList (s.toList.flatMap sampleChar) ++ "\""

/-- A line that gives a setting a value. -/
def sampleLine (name value : String) : String :=
  name ++ " = " ++ value

/-- A line that gives a setting a text. -/
def textLine (name s : String) : String :=
  sampleLine name (sampleText s)

/-- A remark. -/
def remarkLine (s : String) : String :=
  "# " ++ s

/-- The line above a group of settings. -/
def groupLine (name : String) : String :=
  "[" ++ name ++ "]"

/-- The lines about the tracker. -/
def TrackerSettings.sample (t : TrackerSettings) : List String :=
  [groupLine trackerPart, textLine baseUrlField t.baseUrl, textLine "note_filename" t.noteFilename]

/-- The lines about the wording. -/
def WordingSettings.sample (w : WordingSettings) : List String :=
  [groupLine wordingPart,
   textLine "product_name" w.product,
   sampleLine "table_border_width" (toString w.borderWidth),
   textLine "missing_note_placeholder" w.missingNote] ++
  w.templates.map fun (name, _, template) => textLine name template

/-- The lines about how the pamphlet is written. -/
def OutputSettings.sample (o : OutputSettings) : List String :=
  [groupLine "output",
   textLine "method" o.format.label,
   sampleLine "pretty_print" (if o.isIndented then "true" else "false")]

/-- The lines about the paths. -/
def pathsSample : List String :=
  [groupLine "paths",
   remarkLine (textLine "summary" "releaseSummary.xml"),
   remarkLine (textLine "bug_list" "fixedBugsList.xml"),
   remarkLine (textLine "notes_list" "releaseNotesList.xml"),
   remarkLine (textLine "pamphlet" "RELEASE-NOTES.html")]

/-- A file with settings. -/
def Settings.sample (s : Settings) : String :=
  let groups :=
    [[remarkLine "Release pamphlet generator configuration",
      remarkLine "Unset tracker.browse_url and tracker.attachment_url derive from tracker.base_url"],
     [textLine "config_version" s.version],
     s.tracker.sample, s.wording.sample, s.output.sample, pathsSample]
  "\n\n".intercalate (groups.map fun group => "\n".intercalate group) ++ "\n"

end ReleaseNotes
