import BundleGraph.Unfolding

/-! # Build artifacts

    What a bundler leaves behind: chunks, the output files, and the modules in
    them. A module is a source file, an external module, or a wrapper, the
    concatenation of several modules that takes their place in the chunk. The
    reasons of a module say which modules pulled it in.

    `Module.parts` unfolds a module into all modules nested in it,
    `Module.carried` into the modules that it stands for in a chunk: only a
    wrapper stands for what is nested in it.
-/

namespace BundleGraph

inductive ModuleKind where
  | normal
  | concatenated
  /-- Left outside of the bundle. -/
  | external
  deriving DecidableEq, Repr

inductive ChunkKind where
  /-- With the page. -/
  | sync
  /-- On demand. -/
  | lazy
  /-- On demand, fetched in parallel with its parent. -/
  | preload
  /-- On demand, fetched when the browser is idle. -/
  | prefetch
  deriving DecidableEq, Repr

/-- Sizes in bytes; zero means unknown. -/
structure SizeMetrics where
  /-- Size of the sources. -/
  stat : Nat
  /-- Size of the output. -/
  parsed : Nat
  /-- Size of the compressed output. -/
  gzip : Nat
  deriving DecidableEq, Repr, Inhabited

def SizeMetrics.zero : SizeMetrics := ⟨0, 0, 0⟩

structure Reason where
  /-- Name of the module that pulled it in. -/
  origin : Option String
  /-- Free text. -/
  explanation : String
  type : Option String
  deriving DecidableEq, Repr, Inhabited

inductive BundlerId where
  | number (n : Int)
  | name (s : String)
  deriving DecidableEq, Repr

/-- A source file, an external module, or a wrapper. -/
structure Module where
  id : Option BundlerId
  /-- Name by which reasons refer to the module; the empty name cannot be referred to. -/
  fileName : String
  kind : ModuleKind
  sizes : SizeMetrics
  /-- Names it exports, in order. -/
  exports : List String
  deadExports : List String
  isCommonJS : Bool
  subModules : List Module
  reasons : List Reason
  deriving Repr

/-- An output file with the modules at its top level. -/
structure Chunk where
  /-- Name; a chunk with the empty name is ignored by the graph. -/
  id : String
  kind : ChunkKind
  sizes : SizeMetrics
  modules : List Module
  deriving Repr

namespace Module

def isWrapper (m : Module) : Bool := m.kind == .concatenated

theorem sizeOf_subModules (m : Module) : sizeOf m.subModules < sizeOf m := by
  cases m
  simp only [Module.mk.sizeOf_spec]
  omega

/-- A module unfolds into all modules nested in it. -/
def parts : Unfolding Module := ⟨subModules, sizeOf_subModules⟩

/-- A wrapper unfolds into the modules nested in it; nothing else unfolds. -/
def carried : Unfolding Module where
  children m := if m.isWrapper then m.subModules else []
  smaller m := by
    split
    · exact sizeOf_subModules m
    · exact Nat.lt_of_le_of_lt (sizeOf_list_pos m.subModules) (sizeOf_subModules m)

end Module

/-- The modules that a chunk carries, wrappers and what they stand for, in pre-order. -/
def Chunk.carried (c : Chunk) : List Module := Module.carried.walk c.modules

end BundleGraph
