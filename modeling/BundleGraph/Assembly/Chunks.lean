import BundleGraph.Assembly.Sources
import BundleGraph.Exports.Analysis
import BundleGraph.Sizes.Report

/-! # Assembling chunks

    The records of a build become artifacts: modules get the exports of their
    sources and the sizes that a report has for them, chunks get the time when
    they are loaded. Only wrappers hold other modules.

    A table of the sources that were analysed goes along, from module to module,
    into wrappers and out of them, and from chunk to chunk. A source is looked up
    there by its name, and it is analysed and written there if none of its name
    was before.

    In a size report a group is found by a text in its path. Groups in a wrapper
    lie below the wrapper's path.
-/

namespace BundleGraph

open Stats

inductive AssemblyError where
  | badPath
  /-- A group of the size report has a negative size. -/
  | negativeSize (e : Document.Invalid)
  deriving DecidableEq, Repr

/-- The text by which the group of a module is found; `wrapper` is the wrapper that it is in. -/
def sizeNeedle (kind : ModuleKind) (wrapper : Option String) (fileName : String) : String :=
  if fileName = "" then ""
  else if kind = .concatenated then "./" ++ fileName
  else
    match wrapper with
    | some w => "./" ++ w ++ "/" ++ fileName
    | none => fileName

def Stats.Connection.toReason (c : Connection) : Reason := ⟨c.origin, c.explanation, c.type⟩

/-- The module of a record, once its parts are known. -/
def Stats.ModuleRecord.made (r : ModuleRecord) (subModules : List Module)
    (exports : Exports.ModuleExports) (sizes : SizeMetrics) : Module where
  id := r.id
  fileName := r.fileName
  kind := r.kind
  sizes := sizes
  exports := exports.exports
  deadExports := exports.deadExports
  isCommonJS := exports.isCommonJs
  subModules := subModules
  reasons := r.reasons.map Connection.toReason

/-- The chunk of a record, once its modules are known. -/
def Stats.ChunkRecord.made (c : ChunkRecord) (sizes : Sizes.Report) (markers : TimingMarkers)
    (modules : List Module) : Chunk where
  id := c.key
  kind := markers.classify c.initial c.locations
  sizes := sizes.chunkSize c.key
  modules := modules

/-- The sizes of a module of a chunk in a size report. -/
def sizesIn (report : Sizes.Report) (chunk needle : String) : Except AssemblyError SizeMetrics :=
  (report.moduleSize chunk needle).mapError .negativeSize

/-- What was found out about sources, by their names. -/
abbrev Analyses := OrderedMap String Exports.ModuleExports

/-- A step of assembly: it can fail, and it takes the table of analyses along. -/
abbrev Assembly (α : Type) := StateT Analyses (Except AssemblyError) α

structure Assembler where
  analyze : ModuleRecord → Except AssemblyError Exports.ModuleExports
  sizes : Sizes.Report
  /-- Texts that mark prefetching and preloading. -/
  markers : TimingMarkers

namespace Assembler

/-- The exports of a module; only sources have any. -/
def exportsOf (a : Assembler) (r : ModuleRecord) : Assembly Exports.ModuleExports := do
  if r.isSource then
    match (← get).lookup? r.fileName with
    | some known => return known
    | none =>
      let found ← a.analyze r
      modify fun analyses => analyses.insert r.fileName found
      return found
  else return .empty

mutual

/-- Assembles a module of a chunk, within a wrapper if it is in one. -/
def module (a : Assembler) (chunk : String) (wrapper : Option String) :
    ModuleRecord → Assembly Module
  | r@⟨_, kind, fileName, _, _, _, modules⟩ => do
    let subModules ←
      if kind = .concatenated then a.modules chunk (some fileName) modules else pure []
    let exports ← a.exportsOf r
    let sizes ← sizesIn a.sizes chunk (sizeNeedle kind wrapper fileName)
    return r.made subModules exports sizes

def modules (a : Assembler) (chunk : String) (wrapper : Option String) :
    List ModuleRecord → Assembly (List Module)
  | [] => pure []
  | r :: rest => do
    let first ← a.module chunk wrapper r
    let others ← a.modules chunk wrapper rest
    return first :: others

end

def chunk (a : Assembler) (c : ChunkRecord) : Assembly Chunk := do
  return c.made a.sizes a.markers (← a.modules c.key none c.modules)

def chunks (a : Assembler) (s : BuildStats) : Assembly (List Chunk) :=
  s.chunks.mapM a.chunk

end Assembler

end BundleGraph
