import BundleGraph.Artifact.Wire
import BundleGraph.Document.Check
import BundleGraph.Text.Search

/-! # Configuration

    The settings of a project. They are written as a mapping in YAML; what is
    not set has a standard value.

    Some of them are the markers of load timing. When a chunk is loaded follows
    from whether it is initial and from the source locations of the connections
    that pulled its modules in. A location is evidence if it contains a marker.
    Prefetch evidence counts more than preload evidence, wherever either stands;
    without evidence a chunk that is not initial is loaded lazily.
-/

namespace BundleGraph

open Document

/-! ### Load timing -/

/-- Texts that mark a location as evidence; the empty text marks nothing. -/
structure TimingMarkers where
  prefetch : List String
  preload : List String
  deriving DecidableEq, Repr

/-- The markers that the bundler's directives leave. -/
def TimingMarkers.standard : TimingMarkers := ⟨["webpackPrefetch"], ["webpackPreload"]⟩

def isMarked (markers : List String) (location : String) : Bool :=
  markers.any fun m => m ≠ "" && Text.occursIn m location

/-- The kind of a chunk that is not initial, from what is left of the locations. Evidence of
    prefetching settles it at once; `preload` says whether evidence of preloading came before. -/
def TimingMarkers.classifyFrom (t : TimingMarkers) (preload : Bool) : List String → ChunkKind
  | [] => if preload then .preload else .lazy
  | location :: rest =>
    if isMarked t.prefetch location then .prefetch
    else t.classifyFrom (preload || isMarked t.preload location) rest

/-- The kind of a chunk with the given connections. -/
def TimingMarkers.classify (t : TimingMarkers) (initial : Bool) (locations : List String) :
    ChunkKind :=
  if initial then .sync else t.classifyFrom false locations

/-! ### Settings -/

structure Config where
  /-- The runtime that is analysed where the build names none. -/
  runtime : String
  /-- Directory from which sources are found. -/
  context : Option String
  /-- Names of chunks whose exports all count as used; `re:` begins a pattern. -/
  disableTreeShaking : List String
  prefetchMarkers : List String
  preloadMarkers : List String
  /-- Size in bytes above which a source is not read; zero is no limit. -/
  maxSourceBytes : Nat
  deriving DecidableEq, Repr

namespace Config

/-- The standard limit for sources: two binary megabytes. -/
def standardMaxSourceBytes : Nat := 2 * 1024 * 1024

def standard : Config where
  runtime := "client"
  context := none
  disableTreeShaking := []
  prefetchMarkers := TimingMarkers.standard.prefetch
  preloadMarkers := TimingMarkers.standard.preload
  maxSourceBytes := standardMaxSourceBytes

def markers (c : Config) : TimingMarkers := ⟨c.prefetchMarkers, c.preloadMarkers⟩

def check (j : Json) : Checked Config :=
  object j <|
    Config.mk
      <$> field j (.plain "runtime") standard.runtime (fun v => string v)
      <*> field j (.plain "context") standard.context (fun v => optional string v)
      <*> field j (.plain "disable_tree_shaking") standard.disableTreeShaking (fun v => strings v)
      <*> field j (.plain "prefetch_markers") standard.prefetchMarkers (fun v => strings v)
      <*> field j (.plain "preload_markers") standard.preloadMarkers (fun v => strings v)
      <*> field j (.plain "max_source_bytes") standard.maxSourceBytes (fun v => natural v)

def recordName : String := "ChunkGraphConfig"

def ofJson (j : Json) : Except Invalid Config := (check j).toExcept recordName

def toJson (c : Config) : Json :=
  .obj [
    ("runtime", .str c.runtime),
    ("context", stringOrNull c.context),
    ("disable_tree_shaking", .arr (c.disableTreeShaking.map .str)),
    ("prefetch_markers", .arr (c.prefetchMarkers.map .str)),
    ("preload_markers", .arr (c.preloadMarkers.map .str)),
    ("max_source_bytes", .int c.maxSourceBytes)]

end Config

end BundleGraph
