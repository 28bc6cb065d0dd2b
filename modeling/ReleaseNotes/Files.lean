import ReleaseNotes.Text.Utf8
import ReleaseNotes.Text.Quoted

/-!
# Files

The files that a run can see, as a value: a list of paths with their contents.
A directory exists when some file lies below it or when it is known to. Reading and writing answer what
a file system would: a path whose directory is missing, or that names a
directory, is a fault with the wording of the system.
-/

namespace ReleaseNotes

/-- The contents of a file. -/
abbrev Octets := List UInt8

/-- The files, seen from the working directory. -/
structure Files where
  /-- The paths and contents, each path at most once. -/
  entries : List (String × Octets) := []
  /-- Directories that exist even if no file lies below them. -/
  directories : List String := []
  deriving Repr

/-- What went wrong with a path. -/
inductive PathFault where
  /-- The path, or a directory on the way to it, does not exist. -/
  | missing
  /-- The path names a directory. -/
  | directory
  /-- A directory on the way to the path is a file. -/
  | notDirectory
  deriving DecidableEq, Repr

/-- The number that the system gives a fault. -/
def PathFault.number : PathFault → Nat
  | .missing => 2
  | .directory => 21
  | .notDirectory => 20

/-- The system's wording of a fault. -/
def PathFault.wording : PathFault → String
  | .missing => "No such file or directory"
  | .directory => "Is a directory"
  | .notDirectory => "Not a directory"

/-- A fault as it is reported for a path. -/
def PathFault.message (f : PathFault) (path : String) : String :=
  "[Errno " ++ toString f.number ++ "] " ++ f.wording ++ ": " ++ Text.quoted path

/-- The parts of a path that say something: all but the empty ones and `.`. -/
def pathParts (path : String) : List String :=
  ((path.toList.splitOn '/').map String.ofList).filter fun part => part != "" && part != "."

/-- Whether a path begins at the root. -/
def isRooted (path : String) : Bool :=
  "/".toList.isPrefixOf path.toList

/-- Whether a path ends like one of a directory. -/
def endsInside (path : String) : Bool :=
  "/".toList.isSuffixOf path.toList || "/.".toList.isSuffixOf path.toList

/-- The parts of a path, after `/` if it begins at the root. -/
def placeParts (path : String) : List String :=
  if isRooted path then "/" :: pathParts path else pathParts path

/-- The path with some parts. -/
def pathOf : List String → String
  | "/" :: parts => "/" ++ "/".intercalate parts
  | parts => "/".intercalate parts

/-- A path without empty parts and without `.` parts; the working directory is `.`. -/
def tidyPath (path : String) : String :=
  let tidy := "/".intercalate (pathParts path)
  if isRooted path then "/" ++ tidy
  else if tidy.isEmpty then "." else tidy

/-- The place of the directory above one. There is none above the root, and those above the
working directory are named by `..` alone. -/
def above (here : List String) : List String :=
  match here.getLast? with
  | none | some ".." => here ++ [".."]
  | some "/" => here
  | some _ => here.dropLast

namespace Files

/-- The contents of the file at a list of parts. -/
def find? (files : Files) (parts : List String) : Option Octets :=
  (files.entries.find? fun e => placeParts e.1 == parts).map Prod.snd

/-- Whether there is a directory at a list of parts. The root, the working directory and those above
it are always there. -/
def isDirectory (files : Files) (parts : List String) : Bool :=
  parts == ["/"] || parts.all (· == "..") || files.directories.any (placeParts · == parts) ||
    files.entries.any fun e =>
      parts.isPrefixOf (placeParts e.1) && parts.length < (placeParts e.1).length

/-- Follows the parts of a path from a directory, going up at `..`: the place reached,
or the fault met on the way. The last part need not exist. -/
def follow (files : Files) (here : List String) : List String → Except PathFault (List String)
  | [] => .ok here
  | part :: rest =>
    if files.isDirectory here then
      files.follow (if part == ".." then above here else here ++ [part]) rest
    else if (files.find? here).isSome then .error .notDirectory
    else .error .missing

/-- The place that a path names. A path that ends like one of a directory names no file. -/
def place (files : Files) (path : String) : Except PathFault (List String) :=
  if path.isEmpty then .error .missing
  else match files.follow (if isRooted path then ["/"] else []) (pathParts path) with
    | .error fault => .error fault
    | .ok parts =>
      if endsInside path && (files.find? parts).isSome then
        .error .notDirectory
      else .ok parts

/-- Whether a path names a file or a directory. -/
def includes (files : Files) (path : String) : Bool :=
  match files.place path with
  | .error _ => false
  | .ok parts => files.isDirectory parts || (files.find? parts).isSome

/-- The contents of the file that a path names. -/
def read (files : Files) (path : String) : Except PathFault Octets :=
  match files.place path with
  | .error fault => .error fault
  | .ok parts =>
    if files.isDirectory parts then .error .directory
    else match files.find? parts with
      | some octets => .ok octets
      | none => .error .missing

/-- The files after a whole file is written at a path. Nothing changes if that fails. -/
def write (files : Files) (path : String) (octets : Octets) : Except PathFault Files :=
  match files.place path with
  | .error fault => .error fault
  | .ok parts =>
    if files.isDirectory parts then .error .directory
    else if (files.find? parts).isSome then
      .ok { files with
        entries := files.entries.map fun e =>
          if placeParts e.1 == parts then (e.1, octets) else e }
    else .ok { files with entries := files.entries ++ [(pathOf parts, octets)] }

end Files

end ReleaseNotes
