import BundleGraph.Failure

/-! # Loading documents

    Build stats, size reports and settings are read from files. The settings
    have a standard place, where they may be missing; a path that is named must
    lead to a file.
-/

namespace BundleGraph

open Files

def loadText (disk : Disk) (kind : DocumentKind) (path : Path) : Except Failure String :=
  (disk.readText path).mapError fun
    | .badPath => .surprise .badPath
    | .undecodable => .surprise .undecodable
    | .access e => .reported (.unreadable kind path.toString (.access e))

section

variable (lib : Libraries) (disk : Disk)

def loadJson (kind : DocumentKind) (path : Path) : Except Failure Json := do
  let text ← loadText disk kind path
  (lib.json text).mapError fun
    | .problem p place => .reported (.unreadable kind path.toString (.text p place))
    | .tooManyDigits => .surprise .tooManyDigits
    | .tooDeep => .surprise .tooDeep
    | .unpaired => .surprise .unpaired

def readStats (j : Json) : Except Document.Invalid Stats.BuildStats :=
  match lib.refusal .buildStats j with
  | some e => .error e
  | none => Stats.BuildStats.ofJson j

def readSizes (j : Json) : Except Sizes.Problem Sizes.Report :=
  match j, lib.refusal .sizeReport j with
  | .arr _, some e => .error (.invalid e)
  | j, _ => Sizes.Report.ofJson j

def loadStats (path : Path) : Except Failure Stats.BuildStats := do
  let j ← loadJson lib disk .buildStats path
  (readStats lib j).mapError fun e => .reported (.statsInvalid e)

def loadSizes (path : Path) : Except Failure Sizes.Report := do
  let j ← loadJson lib disk .sizeReport path
  (readSizes lib j).mapError fun p => .reported (.sizes p)

end

namespace Config

def directoryName : String := ".chunkgraph"

/-- The file of a project's settings, in their directory. -/
def fileName : String := "config.yaml"

def standardPath : Path := ⟨"", [directoryName, fileName]⟩

section

variable (lib : Libraries)

/-- The settings that a value writes. -/
def read (j : Json) : Except Document.Invalid Config :=
  match lib.refusal .config j with
  | some e => .error e
  | none => ofJson j

/-- The settings that bytes write; `path` is where they were found. -/
def ofBytes (path : String) (bytes : ByteArray) : Except Failure Config := do
  let value ← (lib.yaml bytes).mapError fun
    | .malformed => .reported (.unreadable .config path .yaml)
    | f => .surprise (.yaml f)
  let checked (j : Json) : Except Failure Config :=
    (read lib j).mapError fun e => .reported (.configInvalid path e)
  if value.isBlank then checked (.obj [])
  else
    match value with
    | .map _ => checked value.toJson
    | v => .error (.reported (.configNotMapping path v.kindName))

/-- Reads settings from a path, or from their standard place if none is named. -/
def load (disk : Disk) (path? : Option Path) : Except Failure Config := do
  let path := path?.getD standardPath
  let isThere ← (disk.doesExist path).mapError fun e => .surprise (.access e)
  if isThere then
    let bytes ← (disk.read path).mapError fun e =>
      .reported (.unreadable .config path.toString (.access e))
    ofBytes lib path.toString bytes
  else if path?.isSome then .error (.reported (.configMissing path.toString))
  else .ok standard

end

end Config

end BundleGraph
