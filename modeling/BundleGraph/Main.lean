import BundleGraph.CommandLine.Commands

/-! # The program

    Gets the files that a command needs, runs the command, and does what its
    outcome says: files are written first, then the texts are shown.

    The paths that a command looks at follow from its words, and for a build also
    from the documents that its words name. So the files can be got before the
    command runs.
-/

namespace BundleGraph

open Files CommandLine

/-! ### What a command looks at -/

namespace CommandLine

/-- The paths of the sources of a build, as far as its documents can be read. -/
def sourcePaths (lib : Libraries) (disk : Disk) (stats : Path) (config : Option Path) : List Path :=
  match loadStats lib disk stats, Config.load lib disk config with
  | .ok s, .ok c => s.sources.values.map fun m => m.sourcePath (s.contextUnder c)
  | _, _ => []

/-- The paths that a build looks at, as far as they are known. -/
def buildPaths (lib : Libraries) (disk : Disk) (s : Scanned) : List Path :=
  let config := (s.value? "--config").map Path.ofString
  let named := (s.arguments ++ (s.value? "--sizes").toList).map Path.ofString
  named ++ [config.getD Config.standardPath] ++
    (s.arguments.take 1).flatMap fun stats => sourcePaths lib disk (.ofString stats) config

/-- The paths that the program looks at, as far as they are known. -/
def pathsNeeded (lib : Libraries) (disk : Disk) : List String → List Path
  | "analyze" :: words =>
    match scan analyzeSpec.options true words with
    | .ok s => s.arguments.map Path.ofString
    | .error _ => []
  | "build" :: words =>
    match scan buildSpec.options true words with
    | .ok s => buildPaths lib disk s
    | .error _ => []
  | "init" :: _ => [Config.standardPath]
  | _ => []

end CommandLine

/-! ### The system's files -/

/-- The number of a system error, whichever sign it comes with. -/
def errorNumber (code : UInt32) : Nat :=
  if code.toNat < Nat.pow 2 31 then code.toNat else Nat.pow 2 32 - code.toNat

/-- What a path of the system leads to. -/
def fetch (p : Path) : IO (Except AccessError Entry) := do
  try
    return .ok (.file (← IO.FS.readBinFile p.toString))
  catch
    | .inappropriateType _ code _ =>
      if errorNumber code = AccessError.isADirectory.number then return .ok .directory
      else return .error .notADirectory
    | .invalidArgument _ code _ =>
      if errorNumber code = AccessError.nameTooLong.number then return .error .nameTooLong
      else return .error .notFound
    | .permissionDenied .. => return .error .denied
    | _ => return .error .notFound

/-- What is known of the system's files. -/
abbrev Known := List (Path × Except AccessError Entry)

/-- The known files as a disk; whether files can be written is found out later. -/
def diskOf (known : Known) : Disk where
  lookup p :=
    match known.find? fun k => k.1 = p with
    | some k => k.2
    | none => .error .notFound
  obstacle? _ := none

/-- Gets the paths that a command needs and that are not known yet. -/
def fetchNeeded (words : List String) (known : Known) : IO Known := do
  let mut known := known
  for p in pathsNeeded .plain (diskOf known) words do
    unless p.isBad || known.any (fun k => k.1 = p) do
      known := (p, ← fetch p) :: known
  return known

/-- Writes a file, with the directories around it. -/
def writeFile (p : Path) (text : String) : IO Unit := do
  IO.FS.createDirAll p.parent.toString
  IO.FS.writeFile p.toString text

end BundleGraph

open BundleGraph in
/-- Runs the program on the words it was started with. -/
def main (words : List String) : IO UInt32 := do
  let known ← fetchNeeded words []
  let known ← fetchNeeded words known
  let outcome := CommandLine.run .plain (diskOf known) words
  for (p, text) in outcome.writes do
    writeFile p text
  IO.print outcome.stdout
  IO.eprint outcome.stderr
  if outcome.surprise.isSome then IO.eprintln "The input has a fault that cannot be reported."
  return UInt32.ofNat outcome.exitCode
