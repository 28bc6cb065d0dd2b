/-!
# Vocabulary

The fixed words of the release notes: the sections of the pamphlet, the depths of
its headings, the fields of the summary, the labels in bold, and the elements that
the pamphlet is built from.
-/

namespace ReleaseNotes

/-- The main sections of the pamphlet. -/
inductive Section where
  /-- What the release is about. -/
  | overview
  /-- What is new in the release. -/
  | newFeatures
  /-- The issues that the release fixes. -/
  | bugFixes
  /-- The issues that have detailed notes. -/
  | issues
  /-- What the release was built with. -/
  | buildEnvironment
  deriving DecidableEq, Repr

/-- The sections in the order in which they stand in the pamphlet. -/
def Section.all : List Section :=
  [.overview, .newFeatures, .bugFixes, .issues, .buildEnvironment]

/-- The heading of a section. -/
def Section.title : Section → String
  | .overview => "Overview"
  | .newFeatures => "New Features"
  | .bugFixes => "Bug Fixes"
  | .issues => "Issues"
  | .buildEnvironment => "Build Environment"

/-- What a heading stands over, and so how deep it is. -/
inductive HeaderLevel where
  /-- The whole pamphlet. -/
  | banner
  /-- A main section. -/
  | mainSection
  /-- One issue with a detailed note. -/
  | issueDetail
  deriving DecidableEq, Repr

/-- The levels, the highest first. -/
def HeaderLevel.all : List HeaderLevel :=
  [.banner, .mainSection, .issueDetail]

/-- How deep a heading is. -/
def HeaderLevel.depth : HeaderLevel → Nat
  | .banner => 1
  | .mainSection => 2
  | .issueDetail => 3

/-- The element of a heading. -/
def HeaderLevel.label : HeaderLevel → String
  | .banner => "h1"
  | .mainSection => "h2"
  | .issueDetail => "h3"

/-- The fields of the release summary. -/
inductive SummaryField where
  /-- The release that the notes are about. -/
  | releaseId
  /-- The release before it. -/
  | previousReleaseId
  /-- The branch that the sources came from. -/
  | branch
  /-- The machine that the release was built on. -/
  | machine
  /-- The version of the build tool. -/
  | antVersion
  /-- The oldest development kit. -/
  | jdk14
  /-- The newest development kit. -/
  | java6
  /-- The component framework. -/
  | osgi
  /-- The compilers. -/
  | compilers
  /-- The library for small devices. -/
  | jsr169
  /-- The text of the overview. -/
  | overview
  /-- The text about new features. -/
  | newFeatures
  deriving DecidableEq, Repr

/-- The fields in the order in which a summary lists them. -/
def SummaryField.all : List SummaryField :=
  [.releaseId, .previousReleaseId, .branch, .machine, .antVersion, .jdk14, .java6, .osgi,
   .compilers, .jsr169, .overview, .newFeatures]

/-- The element of a field. -/
def SummaryField.label : SummaryField → String
  | .releaseId => "releaseID"
  | .previousReleaseId => "previousReleaseID"
  | .branch => "branch"
  | .machine => "machine"
  | .antVersion => "antVersion"
  | .jdk14 => "jdk1.4"
  | .java6 => "java6"
  | .osgi => "osgi"
  | .compilers => "compilers"
  | .jsr169 => "jsr169"
  | .overview => "overview"
  | .newFeatures => "newFeatures"

/-- The labels in bold. -/
inductive Headline where
  /-- Over the column of issue keys. -/
  | issueId
  /-- Over the column of issue titles. -/
  | description
  /-- Before the branch. -/
  | branch
  /-- Before the machine. -/
  | machine
  /-- Before the version of the build tool. -/
  | ant
  /-- Before the oldest development kit. -/
  | jdk14
  /-- Before the newest development kit. -/
  | java6
  /-- Before the component framework. -/
  | osgi
  /-- Before the compilers. -/
  | compiler
  /-- Before the library for small devices. -/
  | jsr169
  deriving DecidableEq, Repr

/-- The labels in the order in which the pamphlet shows them. -/
def Headline.all : List Headline :=
  [.issueId, .description, .branch, .machine, .ant, .jdk14, .java6, .osgi, .compiler, .jsr169]

/-- The text of a label. -/
def Headline.text : Headline → String
  | .issueId => "Issue Id"
  | .description => "Description"
  | .branch => "Branch"
  | .machine => "Machine"
  | .ant => "Ant"
  | .jdk14 => "JDK 1.4"
  | .java6 => "Java 6"
  | .osgi => "OSGi"
  | .compiler => "Compiler"
  | .jsr169 => "JSR 169"

/-- The items of the build environment: the label and the field of each, in order. -/
def buildEnvironment : List (Headline × SummaryField) :=
  [(.branch, .branch), (.machine, .machine), (.ant, .antVersion), (.jdk14, .jdk14),
   (.java6, .java6), (.osgi, .osgi), (.compiler, .compilers), (.jsr169, .jsr169)]

/-- The elements that the pamphlet is built from and that are looked for in notes. -/
inductive PageElement where
  /-- A link, or the target of one. -/
  | anchor
  /-- The body of a page. -/
  | body
  /-- Bold text. -/
  | bold
  /-- A cell of a table. -/
  | column
  /-- A line across the page. -/
  | line
  /-- A whole page. -/
  | page
  /-- The block under a heading. -/
  | block
  /-- A list. -/
  | list
  /-- An item of a list. -/
  | item
  /-- A paragraph. -/
  | paragraph
  /-- A row of a table. -/
  | row
  /-- A table. -/
  | table
  /-- The title of a page. -/
  | title
  deriving DecidableEq, Repr

/-- The elements in a fixed order. -/
def PageElement.all : List PageElement :=
  [.anchor, .body, .bold, .column, .line, .page, .block, .list, .item, .paragraph, .row, .table,
   .title]

/-- The name of an element. -/
def PageElement.label : PageElement → String
  | .anchor => "a"
  | .body => "body"
  | .bold => "b"
  | .column => "td"
  | .line => "hr"
  | .page => "html"
  | .block => "blockquote"
  | .list => "ul"
  | .item => "li"
  | .paragraph => "p"
  | .row => "tr"
  | .table => "table"
  | .title => "title"

/-- The element with a name. -/
def PageElement.ofLabel? (label : String) : Option PageElement :=
  PageElement.all.find? (·.label == label)

end ReleaseNotes
