import ReleaseNotes.Assembly.Basic

/-!
# The steps of the assembly

A pamphlet is assembled in six steps: its beginning, with the title, the table of contents and all
sections, and then one step for what each section holds. A step finds its section by its heading and
adds to the block under it.
-/

namespace ReleaseNotes

open Markup

/-- A step of the assembly. -/
inductive Step where
  /-- The title, the table of contents and all sections. -/
  | opening
  /-- The overview. -/
  | overview
  /-- The new features. -/
  | newFeatures
  /-- The table of fixed bugs. -/
  | bugList
  /-- The issues with their detailed notes. -/
  | issuesList
  /-- The build environment. -/
  | environment
  deriving DecidableEq, Repr

/-- The steps in order. -/
def Step.all : List Step :=
  [.opening, .overview, .newFeatures, .bugList, .issuesList, .environment]

/-- The name of a step. -/
def Step.label : Step → String
  | .opening => "begin_pamphlet"
  | .overview => "build_overview"
  | .newFeatures => "build_new_features"
  | .bugList => "build_bug_list"
  | .issuesList => "build_issues_list"
  | .environment => "build_environment"

/-- The block of a section. -/
def blockOf (s : Section) : Assembling Place :=
  onPamphlet (sectionPlace s.title .mainSection)

/-! ### The beginning -/

/-- Adds a section with an entry in a table of contents. -/
def openSection (body toc : Place) (s : Section) : Assembling Unit := do
  let _ ← onTrees (addSection body .mainSection s.title [toc] none)

/-- Begins the pamphlet. -/
def Plan.openPamphlet (plan : Plan) (sources : Sources) : Assembling Unit := do
  let title ← plan.sentence sources plan.settings.wording.title []
  let body ← onPamphlet (begin title)
  let banner ← onTrees (addHeader body .banner title)
  let delta ← plan.sentence sources plan.settings.wording.delta []
  let _ ← onTrees (addParagraph banner delta)
  let toc ← onPamphlet addToc
  Section.all.forM (openSection body toc)

/-! ### Copies of the summary -/

/-- Copies a field of the summary into a section. -/
def copyField (sources : Sources) (s : Section) (field : SummaryField) : Assembling Unit := do
  let block ← blockOf s
  let fragment ← orFail .input (sources.summary.fragment field)
  onTrees (addCopy block fragment)

/-! ### The table of fixed bugs -/

/-- Adds the row of a bug: a link to its page, and its title. -/
def addBug (pages : String) (table : Place) (bug : Tracker.Issue) : Editing Unit := do
  let row ← addRow table
  let cell ← addCell row
  let page ← link (bug.pageUrl pages) bug.key
  let _ ← addNode cell page
  let _ ← addTextCell row bug.title

/-- The headings of the table of fixed bugs. -/
def bugHeadings : List String :=
  [Headline.issueId.text, Headline.description.text]

/-- Adds the table of fixed bugs. -/
def Plan.listBugs (plan : Plan) (sources : Sources) : Assembling Unit := do
  let block ← blockOf .bugFixes
  let bugs ← readReport sources.bugs plan.settings.tracker.noteFilename plan.isTalkative
  let intro ← plan.sentence sources plan.settings.wording.bugFixes []
  let _ ← onTrees (addParagraph block intro)
  let table ← onTrees (addTable block plan.settings.wording.borderWidth bugHeadings)
  bugs.forM fun bug => onTrees (addBug plan.settings.tracker.pages table bug)

/-! ### The issues -/

/-- The detailed note of an issue, if it has one. -/
def Plan.noteOf (plan : Plan) (issue : Tracker.Issue) : Assembling (Option Document) := do
  let fetching := plan.fetch issue
  modify fun p =>
    { p with
      requests := p.requests ++ fetching.request?.toList
      remarks := p.remarks ++ fetching.shown }
  let fetched ← orFail .fetch fetching.result
  orFail .network fetched.note?

/-- The summary of an issue: that of its note, or the placeholder if it has none. -/
def WordingSettings.noteSummary (w : WordingSettings) (key : String) :
    Option Document → Except Tracker.NoteFault String
  | none => .ok w.missingNote
  | some note => Tracker.noteSummary key note.root

/-- The name of the section of an issue. -/
def Tracker.Issue.sectionName (issue : Tracker.Issue) : String :=
  "Note for " ++ issue.key

/-- Adds the section of an issue with its detailed note. An issue without one is set down as
missing it. -/
def Plan.addIssue (plan : Plan) (block list : Place) (issue : Tracker.Issue) :
    Assembling Unit := do
  let note? ← plan.noteOf issue
  let summary ← orFail .note (plan.settings.wording.noteSummary issue.key note?)
  let _ ← onTrees (addLine block)
  let tocs := [(← get).pamphlet.toc, list]
  let details ← onTrees (addSection block .issueDetail issue.sectionName tocs
    (some (issue.sectionName ++ ": " ++ summary)))
  match note? with
  | none => modify fun p => { p with missing := p.missing ++ [issue] }
  | some note =>
    let body ← orFail .note (Tracker.noteBody issue.key note.root)
    onTrees (addCopy details body)

/-- Adds the sections of the issues. -/
def Plan.listIssues (plan : Plan) (sources : Sources) : Assembling Unit := do
  let block ← blockOf .issues
  let issues ← readReport sources.notes plan.settings.tracker.noteFilename plan.isTalkative
  let intro ← plan.sentence sources plan.settings.wording.issues []
  let _ ← onTrees (addParagraph block intro)
  let list ← onTrees (addList block)
  issues.forM (plan.addIssue block list)

/-! ### The build environment -/

/-- What a field of the build environment says. -/
def Plan.environmentText (plan : Plan) (sources : Sources) (field : SummaryField) :
    Assembling String := do
  let text ← orFail .input (sources.summary.text field)
  if field = .branch then
    plan.sentence sources plan.settings.wording.branch [(branchName, .plain text)]
  else return text

/-- Adds a field of the build environment to a list. -/
def Plan.addField (plan : Plan) (sources : Sources) (list : Place)
    (entry : Headline × SummaryField) : Assembling Unit := do
  let text ← plan.environmentText sources entry.2
  let _ ← onTrees (addLabelled list entry.1.text text)

/-- Adds the list of the build environment. -/
def Plan.listEnvironment (plan : Plan) (sources : Sources) : Assembling Unit := do
  let block ← blockOf .buildEnvironment
  let intro ← plan.sentence sources plan.settings.wording.environment []
  let _ ← onTrees (addParagraph block intro)
  let list ← onTrees (addList block)
  buildEnvironment.forM (plan.addField sources list)

/-- What a step does. -/
def Plan.takeStep (plan : Plan) (sources : Sources) : Step → Assembling Unit
  | .opening => plan.openPamphlet sources
  | .overview => copyField sources .overview .overview
  | .newFeatures => copyField sources .newFeatures .newFeatures
  | .bugList => plan.listBugs sources
  | .issuesList => plan.listIssues sources
  | .environment => plan.listEnvironment sources

end ReleaseNotes
