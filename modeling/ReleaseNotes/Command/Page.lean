/-!
# Pages of help

What the program and each of its commands say about themselves.
-/

namespace ReleaseNotes.Command

/-- A part of the program that has a page of help. -/
inductive Topic where
  /-- The program. -/
  | program
  /-- Generating a pamphlet. -/
  | generate
  /-- Making a file with settings. -/
  | makeSettings
  deriving DecidableEq, Repr

/-- The name of the program. -/
def programName : String := "release-pamphlet"

/-- The name of the command that generates a pamphlet. -/
def generateName : String := "generate"

/-- The name of the command that makes a file with settings. -/
def makeSettingsName : String := "init-config"

/-- The names of the commands. -/
def commandNames : List String :=
  [generateName, makeSettingsName]

/-- How a part of the program is called. -/
def Topic.path : Topic → String
  | .program => programName
  | .generate => programName ++ " " ++ generateName
  | .makeSettings => programName ++ " " ++ makeSettingsName

/-- Lines as one text. -/
def lines (ls : List String) : String :=
  "\n".intercalate ls

/-- How the arguments of a part of the program are laid out. -/
def Topic.usage : Topic → String
  | .program => "Usage: release-pamphlet [OPTIONS] COMMAND [ARGS]..."
  | .generate => lines
    ["Usage: release-pamphlet generate [OPTIONS] [SUMMARY BUG_LIST NOTES_LIST",
     "                                 OUTPUT_PAMPHLET]"]
  | .makeSettings => "Usage: release-pamphlet init-config [OPTIONS]"

/-- What is said about a part of the program below its usage. -/
def Topic.about : Topic → List String
  | .program =>
    ["  Generate HTML release notes from tracker exports.",
     "",
     "Options:",
     "  -c, --config PATH  Path to configuration file",
     "  -y, --assume-yes   Assume \"yes\" for all confirmation prompts",
     "  --debug            Show detailed debug output",
     "  -h, --help         Show this message and exit.",
     "",
     "Commands:",
     "  generate     Generate the release notes pamphlet.",
     "  init-config  Create an example configuration file."]
  | .generate =>
    ["  Generate the release notes pamphlet.",
     "",
     "  Reads the release summary and the two tracker reports, downloads the",
     "  detailed release note of every issue in NOTES_LIST, and writes a single HTML",
     "  document.",
     "",
     "  Examples:",
     "",
     "    release-pamphlet generate summary.xml fixedBugsList.xml",
     "    releaseNotesList.xml RELEASE-NOTES.html",
     "",
     "    release-pamphlet --config release_pamphlet.toml generate",
     "",
     "Options:",
     "  --debug     Show each build step and extracted issue",
     "  -h, --help  Show this message and exit."]
  | .makeSettings =>
    ["  Create an example configuration file.",
     "",
     "Options:",
     "  -y, --assume-yes  Assume \"yes\" for confirmation prompts",
     "  -h, --help        Show this message and exit."]

/-- The page of help for a part of the program. -/
def Topic.page (t : Topic) : String :=
  lines (t.usage :: "" :: t.about)

/-- Where to find more about a part of the program. -/
def Topic.advice (t : Topic) : String :=
  "Try '" ++ t.path ++ " --help' for help."

/-- What generating a pamphlet needs. -/
def instructions : String :=
  lines
    ["Usage:",
     "",
     "  release-pamphlet generate SUMMARY BUG_LIST NOTES_LIST OUTPUT_PAMPHLET",
     "",
     "    where",
     "      SUMMARY          Summary, a filled-in copy of the release summary template.",
     "      BUG_LIST         An xml tracker report of issues addressed by this release.",
     "      NOTES_LIST       An xml tracker report listing issues which have detailed",
     "                       releaseNote.html attachments.",
     "      OUTPUT_PAMPHLET  The output file to generate, typically RELEASE-NOTES.html.",
     "",
     "The four paths may instead be set in the [paths] table of the configuration",
     "file, in which case generate takes no arguments.",
     "",
     "The generator connects to the issue tracker in order to read the detailed",
     "release notes that have been clipped to individual issues. Before running",
     "this program, make sure that you can reach the tracker host.",
     "",
     "The generator assumes that the two tracker reports contain key, title, and",
     "attachments elements for each issue. For each issue in NOTES_LIST, it looks",
     "through the attachments block in that report and grabs the latest reported",
     "releaseNote.html.",
     "",
     "For this reason, it is recommended that you freshly generate BUG_LIST and",
     "NOTES_LIST just before you run this tool."]

end ReleaseNotes.Command
