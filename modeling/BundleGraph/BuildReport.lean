import BundleGraph.Assembly.Chunks
import BundleGraph.Failure
import BundleGraph.Graph.Build

/-! # Build reports

    The whole way from the record of a build to its chunks and their graph, for
    one runtime. Nothing is shared between the runtimes of a project.
-/

namespace BundleGraph

open Stats

/-- What is found out about a build for one runtime. -/
structure BuildReport where
  runtime : String
  /-- Chunks in the order of their records. -/
  chunks : List Chunk
  graph : GraphData
  deriving Repr

/-- Chunks by their names; the last one of a name counts. -/
def BuildReport.chunksById (r : BuildReport) : OrderedMap String Chunk :=
  .ofListLast (r.chunks.map fun c => (c.id, c))

def BuildReport.toJson (r : BuildReport) : Json :=
  .obj [
    ("runtime", .str r.runtime),
    ("chunks", .obj (r.chunksById.mapValues Chunk.toJson).entries),
    ("graph", r.graph.toJson)]

def AssemblyError.toFailure : AssemblyError → Failure
  | badPath => .surprise .badPath
  | negativeSize e => .surprise (.negativeSize e)

section

variable (lib : Libraries)

def Config.matcher (c : Config) : Except Failure ChunkMatcher :=
  (ChunkMatcher.ofEntries lib c.disableTreeShaking).mapError fun f => .surprise (.badPattern f)

variable (disk : Files.Disk) (s : BuildStats) (c : Config) (sizes : Sizes.Report)

/-- What the chunks of a build are assembled with. -/
def assembler (matcher : ChunkMatcher) : Assembler where
  analyze m :=
    let usage := s.usageOracle matcher m.fileName (some (s.runtimeUnder c))
    (Exports.analyzeFile lib disk (m.sourcePath (s.contextUnder c)) usage
      c.maxSourceBytes).mapError fun _ => .badPath
  sizes := sizes
  markers := c.markers

/-- Assembles the chunks of a build; no source was analysed before. -/
def assemble (matcher : ChunkMatcher) : Except Failure (List Chunk) :=
  (((assembler lib disk s c sizes matcher).chunks s).run' .empty).mapError AssemblyError.toFailure

/-- Analyses a build. A matcher that is given takes the place of the one in the settings. -/
def analyzeBuild (matcher? : Option ChunkMatcher) : Except Failure BuildReport := do
  let matcher ←
    match matcher? with
    | some m => pure m
    | none => c.matcher lib
  let chunks ← assemble lib disk s c sizes matcher
  let graph ← (buildGraph chunks).mapError fun v => .reported (.graph v)
  return ⟨s.runtimeUnder c, chunks, graph⟩

end

end BundleGraph
