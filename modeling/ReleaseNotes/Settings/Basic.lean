import ReleaseNotes.Template.Language
import ReleaseNotes.Text.Blank

/-!
# Settings

Everything about a pamphlet that can be chosen: where the issue tracker is, how the sentences of
the pamphlet read, how the pamphlet is written, and which files are read and written. Every
setting has a value to take when nothing is chosen.
-/

namespace ReleaseNotes

/-- The addresses of the issue tracker. -/
structure TrackerSettings where
  /-- The address from which the others derive. -/
  baseUrl : String := "https://issues.apache.org/jira"
  /-- The address below which issues have their pages. -/
  browseUrl? : Option String := none
  /-- The address below which attachments are kept. -/
  attachmentUrl? : Option String := none
  /-- The name of the attachment that is a release note. -/
  noteFilename : String := "releaseNote.html"
  /-- How many seconds to wait for a release note. -/
  timeout? : Option Float := none
  deriving Repr

/-- A text that is there and not empty. -/
def filled? (s? : Option String) : Option String :=
  s?.filter fun s => !s.isEmpty

theorem filled?_eq_some_iff {s? : Option String} {s : String} : filled? s? = some s ↔ s? = some s ∧ s ≠ "" := by
  rw [filled?, Option.filter_eq_some_iff]
  simp

/-- The address below which issues have their pages. -/
def TrackerSettings.pages (t : TrackerSettings) : String :=
  (filled? t.browseUrl?).getD (Text.dropSlashes t.baseUrl ++ "/browse")

/-- The address below which attachments are kept. -/
def TrackerSettings.attachments (t : TrackerSettings) : String :=
  (filled? t.attachmentUrl?).getD (Text.dropSlashes t.baseUrl ++ "/secure/attachment")

/-- The place of a name in a template. -/
def placeholder (name : String) : String :=
  "\x7b\x7b " ++ name ++ " \x7d\x7d"

/-- The name of the product in templates. -/
def productName : String := "product"

/-- The name of the release's identifier in templates. -/
def releaseName : String := "release_id"

/-- The name of the preceding release's identifier in templates. -/
def previousName : String := "previous_release_id"

/-- The name of the branch in templates. -/
def branchName : String := "branch"

/-- The names that every sentence may use. -/
def sentenceNames : List String :=
  [productName, releaseName, previousName]

/-- The product and its release. -/
def releaseWords : String :=
  placeholder productName ++ " release " ++ placeholder releaseName

/-- The wording of a pamphlet. -/
structure WordingSettings where
  /-- The name of the product. -/
  product : String := "Derby"
  /-- How wide the border of the table of bug fixes is. -/
  borderWidth : Int := 2
  /-- The summary of an issue without a release note. -/
  missingNote : String := "???"
  /-- The template of the title. -/
  title : String :=
    "Release Notes for " ++ placeholder productName ++ " " ++ placeholder releaseName
  /-- The template of the sentence under the title. -/
  delta : String :=
    "These notes describe the difference between " ++ releaseWords ++
      " and the preceding release " ++ placeholder previousName ++ "."
  /-- The template of the sentence about the bug fixes. -/
  bugFixes : String :=
    "The following issues are addressed by " ++ releaseWords ++
      ". These issues are not addressed in the preceding " ++ placeholder previousName ++
      " release."
  /-- The template of the sentence about the issues. -/
  issues : String :=
    "Compared with the previous release (" ++ placeholder previousName ++ "), " ++ releaseWords ++
      " introduces the following new features and incompatibilities. These merit your special" ++
      " attention."
  /-- The template of the sentence about the build environment. -/
  environment : String := releaseWords ++ " was built using the following environment:"
  /-- The template of the text about the branch. -/
  branch : String := "Source code came from the " ++ placeholder branchName ++ " branch."
  deriving DecidableEq, Repr

/-- The templates with their names and the names that each may use. -/
def WordingSettings.templates (w : WordingSettings) : List (String × List String × String) :=
  [("title_template", sentenceNames, w.title),
   ("delta_template", sentenceNames, w.delta),
   ("bug_fixes_template", sentenceNames, w.bugFixes),
   ("issues_template", sentenceNames, w.issues),
   ("environment_template", sentenceNames, w.environment),
   ("branch_template", branchName :: sentenceNames, w.branch)]

/-- The first template that cannot be used, with what is wrong with it. -/
def WordingSettings.firstFault? (w : WordingSettings) (language : Template.Language) :
    Option (String × Template.Fault) :=
  w.templates.findSome? fun (name, available, template) =>
    match language.validate available template with
    | .ok _ => none
    | .error fault => some (name, fault)

/-- How a pamphlet is written. -/
inductive Format where
  /-- As a web page. -/
  | html
  /-- As an XML document. -/
  | xml
  deriving DecidableEq, Repr

/-- The name of a format. -/
def Format.label : Format → String
  | .html => "html"
  | .xml => "xml"

/-- The formats in order. -/
def Format.all : List Format :=
  [.html, .xml]

/-- How the pamphlet is written. -/
structure OutputSettings where
  /-- The format. -/
  format : Format := .html
  /-- Whether the elements are on lines of their own. -/
  isIndented : Bool := false
  deriving DecidableEq, Repr

/-- The files of a run. -/
structure RunPaths where
  /-- The summary of the release. -/
  summary : String
  /-- The list of fixed bugs. -/
  bugs : String
  /-- The list of issues with release notes. -/
  notes : String
  /-- The pamphlet. -/
  pamphlet : String
  deriving DecidableEq, Repr

/-- The files that are read and written. -/
structure PathSettings where
  /-- The summary of the release. -/
  summary? : Option String := none
  /-- The list of fixed bugs. -/
  bugs? : Option String := none
  /-- The list of issues with release notes. -/
  notes? : Option String := none
  /-- The pamphlet. -/
  pamphlet? : Option String := none
  deriving DecidableEq, Repr

/-- The files of a run, if all of them are chosen. -/
def PathSettings.all? (p : PathSettings) : Option RunPaths := do
  let summary ← filled? p.summary?
  let bugs ← filled? p.bugs?
  let notes ← filled? p.notes?
  let pamphlet ← filled? p.pamphlet?
  some ⟨summary, bugs, notes, pamphlet⟩

/-- All settings. -/
structure Settings where
  /-- The version of the settings. -/
  version : String := "1.0"
  /-- The addresses of the issue tracker. -/
  tracker : TrackerSettings := {}
  /-- The wording of the pamphlet. -/
  wording : WordingSettings := {}
  /-- How the pamphlet is written. -/
  output : OutputSettings := {}
  /-- The files that are read and written. -/
  paths : PathSettings := {}
  /-- The language of the templates. -/
  language : Template.Language := Template.core

end ReleaseNotes
