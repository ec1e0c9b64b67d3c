import BundleGraph.CommandLine.Options

/-! # Commands and their help

    What each command is called, which words it takes, and the help text that
    follows from that.
-/

namespace BundleGraph.CommandLine

/-- What is known of a command before it runs. -/
structure CommandSpec where
  /-- Its name, after those of the commands around it. -/
  name : String
  /-- What stands for its words in a reminder of how it is used. -/
  usage : String
  /-- Lines that say what it does; the first one says it in short. -/
  about : List String
  options : List OptionSpec
  /-- Names of commands within it, with what they do in short. -/
  commands : List (String × String)

def helpOption : OptionSpec := ⟨["--help"], none, "Show this message and exit."⟩

def verboseOption : OptionSpec := ⟨["-v", "--verbose"], none, "Show debug logging"⟩

def jsonOption : OptionSpec := ⟨["--json"], none, "Output as JSON"⟩

def programName : String := "chunkgraph"

def programVersion : String := "0.3.0"

def analyzeSpec : CommandSpec where
  name := programName ++ " analyze"
  usage := "[OPTIONS] FILE"
  about := [
    "Show the exports of one JavaScript/TypeScript file.",
    "",
    "Without --used or --all-used, usage is unknown and every export is reported",
    "dead."]
  options := [
    ⟨["--used"], some "TEXT", "Comma-separated export names the build reports as used"⟩,
    ⟨["--all-used"], none, "Treat every export as used"⟩,
    jsonOption, verboseOption, helpOption]
  commands := []

def buildSpec : CommandSpec where
  name := programName ++ " build"
  usage := "[OPTIONS] STATS_FILE"
  about := [
    "Build the chunk dependency graph from a build stats document.",
    "",
    "Source files referenced by the stats are parsed to find exports and CommonJS",
    "modules; a size report, when given, backfills chunk and module sizes."]
  options := [
    ⟨["--sizes"], some "FILE", "Bundle analyzer size report (JSON)"⟩,
    ⟨["--config"], some "PATH", "Config file (default: .chunkgraph/config.yaml)"⟩,
    ⟨["-o", "--output"], some "PATH", "Write graph JSON to this file"⟩,
    jsonOption, verboseOption, helpOption]
  commands := []

def initSpec : CommandSpec where
  name := programName ++ " init"
  usage := "[OPTIONS]"
  about := [
    "Initialize chunkgraph in the current directory.",
    "",
    "Creates .chunkgraph/config.yaml with the default settings."]
  options := [⟨["--force"], none, "Overwrite existing configuration"⟩, helpOption]
  commands := []

def commandNames : List String := ["analyze", "build", "init"]

def programSpec : CommandSpec where
  name := programName
  usage := "[OPTIONS] COMMAND [ARGS]..."
  about := [
    "chunkgraph: Bundle chunk and module dependency analysis.",
    "",
    "Reads the bundler's build stats, parses module sources for exports, and",
    "produces a graph of chunks, modules and the imports between them.",
    "",
    "Quick Start:",
    "  chunkgraph init",
    "  chunkgraph build stats.json --sizes report.json -o graph.json",
    "  chunkgraph analyze src/index.ts --used default"]
  options := [⟨["--version"], none, "Show the version and exit."⟩, helpOption]
  commands := commandNames.zip
    ([analyzeSpec, buildSpec, initSpec].map fun c => c.about.headD "")

namespace CommandSpec

def usageLine (c : CommandSpec) : String := "Usage: " ++ c.name ++ " " ++ c.usage

/-- Two columns. -/
def twoColumns (rows : List (String × String)) : List String :=
  let width := (rows.map fun r => r.1.length).foldl max 0
  rows.map fun r => "  " ++ Text.padRight (width + 2) r.1 ++ r.2

def optionLabel (o : OptionSpec) : String :=
  ", ".intercalate o.names ++
    match o.value with
    | some v => " " ++ v
    | none => ""

def helpText (c : CommandSpec) : String :=
  let about := c.about.map fun l => if l = "" then "" else "  " ++ l
  let options := twoColumns (c.options.map fun o => (optionLabel o, o.help))
  let commands := if c.commands = [] then [] else ["", "Commands:"] ++ twoColumns c.commands
  String.join (([c.usageLine, ""] ++ about ++ ["", "Options:"] ++ options ++ commands).map
    (· ++ "\n"))

/-- What is shown about wrong words. -/
def problemText (c : CommandSpec) (p : UsageProblem) : String :=
  let reminder :=
    if p.standsAlone then ""
    else
      c.usageLine ++ "\nTry " ++ Text.quoted (c.name ++ " --help") ++ " for help.\n\n"
  reminder ++ "Error: " ++ p.message ++ "\n"

end CommandSpec

end BundleGraph.CommandLine
