import ReleaseNotes.Assembly.Step

/-!
# A run

A run reads the three documents, takes all steps of the assembly, writes the pamphlet, and reports
the issues that still need a release note. The pamphlet is written only after every step has been
taken.
-/

namespace ReleaseNotes

open Markup

/-- Reads the three documents. -/
def Files.sources (files : Files) (summary bugs notes : String) : Except InputFault Sources := do
  let summary ← files.document summary
  let bugs ← files.document bugs
  let notes ← files.document notes
  .ok ⟨⟨summary.root⟩, bugs.root, notes.root⟩

/-- Takes a step, which is shown if asked for. -/
def Plan.takeShownStep (plan : Plan) (sources : Sources) (step : Step) : Assembling Unit := do
  if plan.isTalkative then remark (dimmed ("Running " ++ step.label ++ "..."))
  plan.takeStep sources step

/-- Takes all steps. -/
def Plan.assemble (plan : Plan) (sources : Sources) : Assembling Unit :=
  Step.all.forM (plan.takeShownStep sources)

/-- Writes the pamphlet to a path. -/
def Plan.save (plan : Plan) (path : String) : Assembling Unit := do
  let p ← get
  let output := plan.settings.output
  let files ← orFail .pamphlet
    (p.pamphlet.save p.files path output.format.label output.isIndented)
  set { p with files := files }
  if plan.isTalkative then remark (dimmed ("Wrote " ++ path))

/-! ### Issues without a detailed note -/

/-- The line above the issues without a detailed note. -/
def missingHeader : String := "The following tracker issues still need release notes:"

/-- The lines about issues without a detailed note: none if there are no such issues. -/
def missingLines : List Tracker.Issue → List String
  | [] => []
  | missing => missingHeader :: missing.map fun issue => "\t" ++ issue.key ++ "\t" ++ issue.title

/-- What is shown of issues without a detailed note. -/
def missingReport (missing : List Tracker.Issue) : String :=
  String.join ((missingLines missing).map Terminal.plainLine)

/-- Reports the issues without a detailed note. -/
def reportMissing : Assembling Unit :=
  modify fun p => { p with remarks := p.remarks ++ missingReport p.missing }

/-! ### All of it -/

/-- Generates the pamphlet of some files. -/
def Plan.generate (plan : Plan) (paths : RunPaths) : Assembling Unit := do
  let sources ← orFail .input ((← get).files.sources paths.summary paths.bugs paths.notes)
  plan.assemble sources
  plan.save paths.pamphlet
  reportMissing

end ReleaseNotes
