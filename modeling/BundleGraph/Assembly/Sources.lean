import BundleGraph.Config
import BundleGraph.Files.Path
import BundleGraph.Stats
import BundleGraph.Usage

/-! # Sources of a build

    Where the sources of a build lie, and what the build says about the use of
    their exports. Several records may have one name. The first record of a source
    that chunks carry says where the source lies. The first record of a name, at
    any depth in any chunk, says what is used; but all that is in a chunk which is
    kept whole counts as used, also where it stands in other chunks.
-/

namespace BundleGraph

open Stats Files

namespace Stats

namespace ModuleRecord

/-- Whether a module is made from a source that can be found by name. -/
def isSource (m : ModuleRecord) : Bool := m.kind == .normal && m.fileName ≠ ""

def sourcePath (m : ModuleRecord) (context : Path) : Path :=
  context.startingAt (.ofString ((m.resource.filter (· ≠ "")).getD m.fileName))

end ModuleRecord

namespace BuildStats

def runtimeUnder (s : BuildStats) (c : Config) : String :=
  (s.runtime.filter (· ≠ "")).getD c.runtime

def contextUnder (s : BuildStats) (c : Config) : Path :=
  match (s.context.filter (· ≠ "")).or (c.context.filter (· ≠ "")) with
  | some directory => .ofString directory
  | none => .here

/-- The records that say where each source lies. -/
def sources (s : BuildStats) : OrderedMap String ModuleRecord :=
  .ofListFirst (((s.chunks.flatMap ChunkRecord.carried).filter ModuleRecord.isSource).map
    fun m => (m.fileName, m))

/-! ### Usage -/

/-- All modules of a build with a name, at any depth, in pre-order. -/
def namedModules (s : BuildStats) : List ModuleRecord :=
  (s.chunks.flatMap ChunkRecord.allModules).filter fun m => m.fileName ≠ ""

/-- What the build says about the use of each file's exports. -/
def usageRecords (s : BuildStats) : OrderedMap String Json :=
  .ofListFirst (s.namedModules.map fun m => (m.fileName, m.usedExports))

/-- Files that count as fully used because they stand in a chunk that is kept whole. -/
def keptFiles (s : BuildStats) (m : ChunkMatcher) : List String :=
  (((s.chunks.filter fun c => m.accepts c.name).flatMap ChunkRecord.allModules).map
    (·.fileName)).filter (· ≠ "")

/-- What is known of the use of each file's exports. -/
def usageOracle (s : BuildStats) (m : ChunkMatcher) : UsageOracle :=
  (UsageOracle.ofRecords s.usageRecords).force (s.keptFiles m)

end BuildStats

end Stats

end BundleGraph
