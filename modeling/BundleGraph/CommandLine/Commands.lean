import BundleGraph.BuildReport
import BundleGraph.CommandLine.Help
import BundleGraph.Json.Writer
import BundleGraph.Load
import BundleGraph.Number.Binary64
import BundleGraph.Terminal.Table

/-! # Commands

    What the program does with its words and the files where it runs: what it
    prints, what it writes, and how it ends. Nothing is done here; an outcome
    says what is to be done.

    A failure that belongs to a family is reported and ends with one, wrong words
    end with two. A surprise is not reported at all.

    Sizes are shown in bytes below a thousand and twenty-four, and otherwise in
    kilobytes or megabytes with one decimal place. The quotient is a binary
    floating-point number; a half in its second place goes to the even digit.
    A quotient that is too large to be finite cannot be shown.
-/

namespace BundleGraph

/-! ### Amounts of bytes -/

/-- A finite number with one decimal place. -/
def Binary64.oneDecimal : Binary64 → Option String
  | .finite negative mantissa exponent =>
    let (num, den) := ratio mantissa exponent
    let tenths := roundDiv (num * 10) den
    some ((if negative then "-" else "") ++ toString (tenths / 10) ++ "." ++ toString (tenths % 10))
  | _ => none

namespace ByteAmount

def kilobyte : Nat := 1024

def megabyte : Nat := 1024 * 1024

def text (bytes : Int) : Option String :=
  if bytes < kilobyte then some (toString bytes ++ " B")
  else if bytes < megabyte then
    (Binary64.ofRatio false bytes.toNat kilobyte).oneDecimal.map (· ++ " KB")
  else (Binary64.ofRatio false bytes.toNat megabyte).oneDecimal.map (· ++ " MB")

end ByteAmount

namespace CommandLine

open Files Terminal

/-- What a command amounts to. -/
structure Outcome where
  exitCode : Nat
  stdout : String
  stderr : String
  writes : List (Path × String)
  /-- The fault that stopped it, if nothing looked for it. -/
  surprise : Option Surprise
  deriving DecidableEq, Repr

namespace Outcome

def success (stdout : String) (writes : List (Path × String)) : Outcome :=
  ⟨0, stdout, "", writes, none⟩

def usage (c : CommandSpec) (p : UsageProblem) : Outcome := ⟨2, "", c.problemText p, [], none⟩

/-- A fault that nothing looked for, after some files were written. -/
def surprised (s : Surprise) (writes : List (Path × String)) : Outcome :=
  ⟨1, "", "", writes, some s⟩

end Outcome

/-! ### Reports as documents -/

def document (j : Json) : String := j.pretty ++ "\n"

/-- A result as a document. -/
def successDocument (command : String) (data : Json) : String :=
  document (.obj [
    ("meta", .obj [("command", .str command), ("status", .str "success")]),
    ("data", data)])

def errorDocument (command type message : String) : String :=
  document (.obj [
    ("meta", .obj [("command", .str command), ("status", .str "error")]),
    ("error", .obj [("type", .str type), ("message", .str message)])])

def reported (asJson : Bool) (command type message : String) : Outcome :=
  if asJson then ⟨1, errorDocument command type message, "", [], none⟩
  else ⟨1, "", "❌ " ++ message ++ "\n", [], none⟩

/-! ### Arguments -/

def fileOfWord (disk : Disk) (parameter word : String) : Except UsageProblem Path :=
  match disk.lookupText word with
  | .ok (.file _) => .ok (.ofString word)
  | .ok .directory => .error (.isDirectory parameter word)
  | .error _ => .error (.noFile parameter word)

def fileArgument (disk : Disk) (name : String) : List String → Except UsageProblem Path
  | [] => .error (.missingArgument name)
  | word :: others => do
    let path ← fileOfWord disk name word
    if others = [] then return path else throw (.extraArguments others)

/-! ### Exports of a file -/

/-- Names between commas, without the blanks around them. -/
def namesOfList (list : String) : List String :=
  (((Text.splitOn ',' list.toList).map String.ofList).map Text.trim).filter (· ≠ "")

def usageOfOptions (s : Scanned) : Usage :=
  if s.has "--all-used" then .allUsed
  else
    match s.value? "--used" with
    | some list => .only (firstOccurrences (namesOfList list))
    | none => .unknown

def nameWidth : Nat := 30

def exportsText (path : Path) (m : Exports.ModuleExports) : String :=
  let lines :=
    if m.exports = [] then ["   No exports found"]
    else
      m.exports.map fun name =>
        "   " ++ Text.padRight nameWidth name ++
          if name ∈ m.deadExports then " dead" else " used"
  String.join ((["📄 " ++ path.toString,
    "   Module format: " ++ if m.isCommonJs then "CommonJS" else "ES module"] ++ lines).map
      (· ++ "\n"))

def exportsJson (path : Path) (m : Exports.ModuleExports) : Json :=
  .obj [
    ("file", .str path.toString),
    ("is_commonjs", .bool m.isCommonJs),
    ("exports", Document.stringList m.exports),
    ("dead_exports", Document.stringList m.deadExports)]

def analyze (lib : Libraries) (disk : Disk) (s : Scanned) : Outcome :=
  match fileArgument disk "FILE" s.arguments with
  | .error p => .usage analyzeSpec p
  | .ok path =>
    if s.has "--used" && s.has "--all-used" then
      .usage analyzeSpec (.exclusive "--used" "--all-used")
    else
      match Exports.sourceText? disk path Config.standardMaxSourceBytes with
      | .error _ => .surprised .badPath []
      | .ok none =>
        reported (s.has "--json") "analyze" "OSError" ("Could not read " ++ path.toString)
      | .ok (some text) =>
        let m := Exports.analyze (lib.parse (.ofPath (some path)) text) (usageOfOptions s)
        .success
          (if s.has "--json" then successDocument "analyze" (exportsJson path m)
            else exportsText path m) []

/-! ### The graph of a build -/

/-- A row about a chunk; none if an amount is too large. -/
def chunkRow? (c : Chunk) : Option (List String) := do
  let parsed ← ByteAmount.text c.sizes.parsed
  let gzip ← ByteAmount.text c.sizes.gzip
  return [c.id, c.kind.name, toString c.modules.length, parsed, gzip]

def chunkTable? (r : BuildReport) : Option Table :=
  (r.chunks.mapM chunkRow?).map fun rows =>
    { title := "Chunks (" ++ r.runtime ++ ")"
      columns := [⟨"Chunk", .left⟩, ⟨"Kind", .left⟩, ⟨"Modules", .right⟩, ⟨"Parsed", .right⟩,
        ⟨"Gzip", .right⟩]
      rows }

def reportText (r : BuildReport) (output : Option Path) : Except Surprise String := do
  let some table := chunkTable? r | throw .amount
  let some shown := table.render? | throw .styleMark
  let summary := r.graph.summary
  let lines := [
    "✅ Build analyzed",
    "   Modules: " ++ toString summary.modules,
    "   Links:   " ++ toString summary.links ++ " (" ++ toString summary.importLinks ++
      " imports)"] ++
    match output with
    | some path => ["   Graph written to " ++ path.toString]
    | none => []
  return shown ++ String.join (lines.map (· ++ "\n"))

def reportJson (r : BuildReport) (output : Option Path) : Json :=
  .obj [
    ("runtime", .str r.runtime),
    ("summary", r.graph.summary.toJson),
    ("output_path", Document.stringOrNull (output.map Path.toString)),
    ("graph", r.graph.toJson)]

def buildReport (lib : Libraries) (disk : Disk) (stats : Path) (sizes config : Option Path) :
    Except Failure BuildReport := do
  let c ← Config.load lib disk config
  let s ← loadStats lib disk stats
  let r ← match sizes with
    | some path => loadSizes lib disk path
    | none => .ok .empty
  analyzeBuild lib disk s c r none

/-- What is printed and written about a report. -/
def finishBuild (disk : Disk) (asJson : Bool) (output : Option Path) (r : BuildReport) :
    Outcome :=
  match output.bind disk.obstacle? with
  | some e => .surprised (.access e) []
  | none =>
    let writes := (output.map fun path => (path, r.graph.toJson.pretty)).toList
    if asJson then .success (successDocument "build" (reportJson r output)) writes
    else
      match reportText r output with
      | .ok text => .success text writes
      | .error s => .surprised s writes

/-- The files that a build is described by: stats, sizes. -/
def buildArguments (disk : Disk) (s : Scanned) :
    Except UsageProblem (Path × Option Path) := do
  let sizes ← (s.value? "--sizes").mapM (fileOfWord disk "--sizes")
  let stats ← fileArgument disk "STATS_FILE" s.arguments
  return (stats, sizes)

def build (lib : Libraries) (disk : Disk) (s : Scanned) : Outcome :=
  match buildArguments disk s with
  | .error p => .usage buildSpec p
  | .ok (stats, sizes) =>
    match buildReport lib disk stats sizes ((s.value? "--config").map Path.ofString) with
    | .ok r =>
      finishBuild disk (s.has "--json") ((s.value? "--output").map Path.ofString) r
    | .error (.reported e) => reported (s.has "--json") "build" e.family.name e.message
    | .error (.surprise e) => .surprised e []

/-! ### Standard settings -/

def standardSettings : String :=
  String.join (["version: '1.0'", "runtime: client", "context: null",
    "disable_tree_shaking: []", "prefetch_markers:", "- webpackPrefetch", "preload_markers:",
    "- webpackPreload", "max_source_bytes: 2097152"].map (· ++ "\n"))

/-- Lines in a frame. -/
def framed (cs : List Char) : String :=
  let rule := List.replicate (width cs + 2) '─'
  String.ofList (['╭'] ++ rule ++ ['╮', '\n', '│', ' '] ++ cs ++ [' ', '│', '\n', '╰'] ++
    rule ++ ['╯', '\n'])

/-- Writes the standard settings, unless there are some. -/
def init (disk : Disk) (s : Scanned) : Outcome :=
  let path := Config.standardPath
  let greeting := framed "🚀 chunkgraph Initialization".toList
  if s.arguments ≠ [] then .usage initSpec (.extraArguments s.arguments)
  else if (disk.lookup path).isOk && !s.has "--force" then
    .success (greeting ++ "Configuration already exists at " ++ path.toString ++
      "\nUse --force to overwrite it.\n") []
  else
    match disk.obstacle? path with
    | some e => .surprised (.access e) []
    | none =>
      .success (greeting ++ "\n✨ Initialized successfully!\n   Config created at: " ++
        path.toString ++ "\n") [(path, standardSettings)]

/-! ### The program -/

/-- Runs a command on its words, after a look for help. -/
def runCommand (c : CommandSpec) (run : Scanned → Outcome) (words : List String) : Outcome :=
  match scan c.options true words with
  | .error p => .usage c p
  | .ok s => if s.has "--help" then .success c.helpText [] else run s

def run (lib : Libraries) (disk : Disk) (words : List String) : Outcome :=
  if words = [] then ⟨2, "", programSpec.helpText, [], none⟩
  else
    match scan programSpec.options false words with
    | .error p => .usage programSpec p
    | .ok s =>
      match s.options.head?, s.arguments with
      | some o, _ =>
        if o.name = "--help" then .success programSpec.helpText []
        else .success (programName ++ ", version " ++ programVersion ++ "\n") []
      | none, [] => .usage programSpec .missingCommand
      | none, command :: rest =>
        if command = "analyze" then runCommand analyzeSpec (analyze lib disk) rest
        else if command = "build" then runCommand buildSpec (build lib disk) rest
        else if command = "init" then runCommand initSpec (init disk) rest
        else .usage programSpec (.noSuchCommand command (similarWords command commandNames))

end CommandLine

end BundleGraph
