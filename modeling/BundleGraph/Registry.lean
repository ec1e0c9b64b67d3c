import BundleGraph.Artifact
import BundleGraph.OrderedMap

/-! # Module registry

    A table of all modules that a list of chunks carries, by file name. Real
    modules and wrappers stand in two indexes: a wrapper is never a real module,
    and is kept only so that a reason that names it can be followed.

    The first module of a name counts. Modules without a name cannot be found
    and are left out, but what a nameless wrapper carries is not.
-/

namespace BundleGraph

structure Registry where
  modules : OrderedMap String Module
  wrappers : OrderedMap String Module

namespace Registry

/-- Modules with a name, each with its name. -/
def named (ms : List Module) : List (String × Module) :=
  (ms.filter fun m => m.fileName ≠ "").map fun m => (m.fileName, m)

/-- Everything that chunks with a name carry, in pre-order. -/
def carried (chunks : List Chunk) : List Module :=
  (chunks.filter fun c => c.id ≠ "").flatMap Chunk.carried

def build (chunks : List Chunk) : Registry where
  modules := .ofListFirst (named ((carried chunks).filter fun m => !m.isWrapper))
  wrappers := .ofListFirst (named ((carried chunks).filter Module.isWrapper))

def get? (r : Registry) (name : String) : Option Module := r.modules.lookup? name

/-- The real module of a name, or else the wrapper of that name. -/
def lookup? (r : Registry) (name : String) : Option Module :=
  (r.modules.lookup? name).or (r.wrappers.lookup? name)

def contains (r : Registry) (name : String) : Bool := r.modules.contains name

/-- Whether a name is that of a wrapper and of no real module. -/
def isWrapper (r : Registry) (name : String) : Bool :=
  !r.modules.contains name && r.wrappers.contains name

def size (r : Registry) : Nat := r.modules.size

end Registry

end BundleGraph
