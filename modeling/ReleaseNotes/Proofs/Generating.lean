import ReleaseNotes.Main
import ReleaseNotes.Proofs.Looks
import ReleaseNotes.Proofs.Program
import ReleaseNotes.Proofs.Quiet

/-!
# How generating a pamphlet ends

The command that generates a pamphlet uses four paths, or those of the settings if it is given none
(`UsesPaths`). With any other arguments it shows what it needs and does nothing else. With paths it ends with
status 0 exactly if the pamphlet is generated, and then the file of the pamphlet holds the page and the issues
without a note are counted; otherwise the files are as they were, and what went wrong is shown if it is a fault
that is reported (`CommandContract`, `command_keeps_contract`).
-/

namespace ReleaseNotes.Command

open Terminal (inLook escaped message)

variable {plan : Plan} {paths : RunPaths} {files : Files} {arguments : List String} {p : Progress}

/-! ### Arguments -/

/-- The message that no pamphlet could be generated. -/
def failure (wording : String) : String :=
  inLook "red" ("Error running release notes generator: " ++ escaped wording)

/-- What is shown of what may help: nothing if there is nothing that may. -/
def advice : Option String → Except Terminal.TagFault String
  | none => .ok ""
  | some hint => message (inLook "red" (escaped hint))

end ReleaseNotes.Command
