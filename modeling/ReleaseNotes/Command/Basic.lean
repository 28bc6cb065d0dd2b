import ReleaseNotes.Assembly.Run
import ReleaseNotes.Settings.Read

/-!
# Commands

A command works on the files and shows what it does, and comes to an end (`Ending`). What it does is
a change to what has been done so far, as it is for the assembly of a pamphlet (`Commanding`).
-/

namespace ReleaseNotes.Command

/-- How a run of the program ends. -/
inductive Ending where
  /-- It ends by itself. -/
  | exit (status : Nat)
  /-- It breaks off because there are no settings. -/
  | settings (fault : SettingsFault)
  /-- It breaks off while the pamphlet is assembled. -/
  | assembly (fault : AssemblyFault)
  /-- It breaks off because a file cannot be written. -/
  | file (path : String) (fault : PathFault)
  deriving Repr

/-- What a run of the program does. It may come to an end before all of it is done. -/
abbrev Commanding (α : Type) := ExceptT Ending (StateM Progress) α

/-- What comes of a part of the assembly. -/
def attempt {α : Type} (work : Assembling α) : Commanding (Except AssemblyFault α) := do
  let (result, p) := work.run.run (← get)
  set p
  return result

/-- A part of the assembly, which breaks the run off if it fails. -/
def onAssembly {α : Type} (work : Assembling α) : Commanding α := do
  match ← attempt work with
  | .ok a => return a
  | .error fault => throw (.assembly fault)

/-- Shows a message. -/
def tell (s : String) : Commanding Unit :=
  onAssembly (showLine s)

/-- Shows a message in a colour. -/
def tellIn (colour s : String) : Commanding Unit :=
  tell (Terminal.inLook colour s)

/-- Shows a text as it is. -/
def tellPlainly (s : String) : Commanding Unit :=
  modify fun p => { p with shown := p.shown ++ s }

/-- Ends the run with some lines about what is wrong. -/
def complain {α : Type} (status : Nat) (complaints : List String) : Commanding α := do
  modify fun p =>
    { p with remarks := p.remarks ++ String.join (complaints.map Terminal.plainLine) }
  throw (.exit status)

end ReleaseNotes.Command
