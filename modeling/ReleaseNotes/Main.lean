import ReleaseNotes.Command.Run

/-!
# The program

Reads the files that the arguments and the settings may mean, runs the program on them, and writes
what it changed. There is no network: no release note can be downloaded.
-/

namespace ReleaseNotes.Main

open Command

/-- The name of the address of the tracker in the environment. -/
def trackerVariable : String := "RELEASE_PAMPHLET_TRACKER_URL"

/-- A path that goes up nowhere but at its beginning. -/
def straight (path : String) : String :=
  let step (here : List String) (part : String) : List String :=
    if part == ".." then above here else here ++ [part]
  pathOf ((placeParts path).foldl step [])

/-- The file at a path, if there is one. -/
def readFile? (path : String) : IO (Option (String × Octets)) := do
  try
    return some (straight path, (← IO.FS.readBinFile path).toList)
  catch _ => return none

/-- The directory at a path, if there is one. -/
def readDirectory? (path : String) : IO (Option String) := do
  try
    let _ ← IO.FS.realPath (path ++ "/.")
    return some path
  catch _ => return none

/-- The directories on the way to a path, and the path itself. -/
def stages (path : String) : List String :=
  let parts := placeParts path
  (List.range parts.length).map fun i => pathOf (parts.take (i + 1))

/-- The files and directories that some paths name. -/
def look (paths : List String) : IO Files := do
  let entries ← paths.eraseDups.filterMapM readFile?
  let directories ← (paths.flatMap stages).eraseDups.filterMapM readDirectory?
  return { entries := entries, directories := directories }

/-- The values in some arguments that may be paths. -/
def mentioned (arguments : List String) : List String :=
  arguments ++ arguments.filterMap fun a =>
    match a.splitOn "=" with
    | _ :: value@(_ :: _) => some ("=".intercalate value)
    | _ => none

/-- The paths that the settings in some files name. -/
def pathsOfSettings (files : Files) (paths : List String) : List String :=
  paths.flatMap fun path =>
    match Settings.ofFile files none path with
    | .ok s => [s.paths.summary?, s.paths.bugs?, s.paths.notes?, s.paths.pamphlet?].filterMap id
    | .error _ => []

/-- Runs the program, and again with another line of input as long as it has to ask for one. What was
printed before is not printed again. -/
partial def converse (s : Surroundings) (files : Files) (printed : Nat) : IO (Ending × Progress) := do
  let (ending, p) := run s files
  IO.print (p.shown.drop printed)
  (← IO.getStdout).flush
  let line ← if ending matches .exit 1 && p.shown.endsWith question then (← IO.getStdin).getLine else pure ""
  if line.isEmpty then return (ending, p)
  converse { s with input := s.input ++ [line] } files p.shown.length

/-- The number that the program ends with, and what is said about that. -/
def status : Ending → UInt32 × String
  | .exit n => (n.toUInt32, "")
  | .settings fault => (1, fault.message ++ "\n")
  | .assembly _ => (1, "The release notes cannot be generated.\n")
  | .file path fault => (1, fault.message path ++ "\n")

end ReleaseNotes.Main

open ReleaseNotes ReleaseNotes.Main in
/-- The program. -/
def main (arguments : List String) : IO UInt32 := do
  let named := mentioned arguments ++ settingsFiles
  let files ← look (named ++ pathsOfSettings (← look named) named)
  let s : Command.Surroundings :=
    { arguments := arguments
      trackerUrl? := ← IO.getEnv trackerVariable
      input := []
      web := fun _ => .failure [noConnection] }
  let (ending, p) ← converse s files 0
  for (path, octets) in p.files.entries do
    if !files.entries.contains (path, octets) then
      IO.FS.writeBinFile path ⟨octets.toArray⟩
  let (code, message) := status ending
  IO.eprint (p.remarks ++ message)
  return code
