import ReleaseNotes.Command.Basic
import ReleaseNotes.Command.Page

/-!
# Generating a pamphlet

The command that generates a pamphlet takes four paths, or none if all of them are set. With any other
number of paths it shows what it needs. A run that fails is reported, and so are the issues that still
need a release note.
-/

namespace ReleaseNotes.Command

/-- The files of a run: the arguments if there are four, the settings if there is none. -/
def resolvePaths (arguments : List String) (paths : PathSettings) : Option RunPaths :=
  match arguments with
  | [summary, bugs, notes, pamphlet] => some ⟨summary, bugs, notes, pamphlet⟩
  | [] => paths.all?
  | _ => none

/-- Shows what generating a pamphlet needs. -/
def showInstructions (isTalkative : Bool) (count : Nat) : Commanding Unit := do
  if isTalkative then tell (dimmed ("Expected 4 paths, got " ++ toString count))
  tellPlainly (instructions ++ "\n")

/-- Shows the files of a run and the tracker. -/
def showPaths (paths : RunPaths) (tracker : String) : Commanding Unit := do
  tell (dimmed ("Summary: " ++ paths.summary))
  tell (dimmed ("Bug list: " ++ paths.bugs))
  tell (dimmed ("Notes list: " ++ paths.notes))
  tell (dimmed ("Tracker: " ++ tracker))

/-- Shows why no pamphlet could be generated. A fault that is not reported breaks the run off. -/
def reportFault (fault : AssemblyFault) : Commanding Unit := do
  match fault.report? with
  | none => throw (.assembly fault)
  | some wording =>
    tellIn "red" ("Error running release notes generator: " ++ Terminal.escaped wording)
    match fault.hint? with
    | some hint => tellIn "red" (Terminal.escaped hint)
    | none => pure ()
    throw (.exit 1)

/-- Shows that the pamphlet has been generated. -/
def reportSuccess (path : String) : Commanding Unit := do
  tellIn "green" ("✓ Release notes written to " ++ Terminal.escaped path)
  let missing := (← get).missing
  if !missing.isEmpty then
    tellIn "yellow" (toString missing.length ++ " issue(s) still need release notes")

/-- Generates a pamphlet from some files. -/
def generateFrom (plan : Plan) (paths : RunPaths) : Commanding Unit := do
  if plan.isTalkative then showPaths paths plan.settings.tracker.baseUrl
  tellIn "blue" ("Generating release notes for " ++ Terminal.escaped paths.summary ++ "...")
  match ← attempt (plan.generate paths) with
  | .error fault => reportFault fault
  | .ok _ => reportSuccess paths.pamphlet

/-- The command that generates a pamphlet. -/
def generate (plan : Plan) (arguments : List String) : Commanding Unit :=
  match resolvePaths arguments plan.settings.paths with
  | none => showInstructions plan.isTalkative arguments.length
  | some paths => generateFrom plan paths

end ReleaseNotes.Command
