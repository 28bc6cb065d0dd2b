import ReleaseNotes.Command.Basic
import ReleaseNotes.Settings.Sample
import ReleaseNotes.Text.Case

/-!
# Making a file with settings

The command that makes a file with settings asks before it overwrites one, unless the answer is known
to be yes. An answer that makes no sense is asked for again.
-/

namespace ReleaseNotes.Command

/-- What an answer says. An empty one says no. -/
def answer? (line : String) : Option Bool :=
  let answer := String.ofList (Text.trim (Text.lower line.toList))
  if ["y", "yes"].contains answer then some true
  else if ["n", "no", ""].contains answer then some false
  else none

/-- The question before a file is overwritten. -/
def question : String := "Overwrite? [y/N]: "

/-- What is shown until an answer makes sense, and what it says, if there is one among the lines that
are typed. -/
def ask : List String → String × Option Bool
  | [] => (question, none)
  | line :: rest =>
    match answer? line with
    | some isYes => (question, some isYes)
    | none =>
      let (shown, isYes?) := ask rest
      (question ++ "Error: invalid input\n" ++ shown, isYes?)

/-- Whether the file may be overwritten. -/
def mayOverwrite (input : List String) : Commanding Bool := do
  let (shown, isYes?) := ask input
  tellPlainly shown
  match isYes? with
  | some isYes => return isYes
  | none => complain 1 ["Aborted!"]

/-- Whether the file may be written. -/
def mayWrite (isAgreed : Bool) (input : List String) : Commanding Bool := do
  if (← get).files.includes settingsFile then
    tellIn "yellow" ("Configuration file already exists at " ++ settingsFile)
    if isAgreed then return true else mayOverwrite input
  else return true

/-- What to do with the file. -/
def nextSteps : List String :=
  ["\n[blue]Next steps:[/blue]",
   "1. Edit " ++ settingsFile ++ " and set your tracker and product name",
   "2. Export fixedBugsList.xml and releaseNotesList.xml from the tracker",
   "3. Run: release-pamphlet generate SUMMARY BUG_LIST NOTES_LIST OUTPUT_PAMPHLET"]

/-- Writes the file. -/
def writeSample : Commanding Unit := do
  let p ← get
  match p.files.write settingsFile (Text.utf8 (Settings.sample {}).toList) with
  | .error fault => throw (.file settingsFile fault)
  | .ok files => set { p with files := files }

/-- The command that makes a file with settings. -/
def makeSettings (isAgreed : Bool) (input : List String) : Commanding Unit := do
  if ← mayWrite isAgreed input then
    writeSample
    tellIn "green" ("Created configuration file: " ++ settingsFile)
    nextSteps.forM tell

end ReleaseNotes.Command
