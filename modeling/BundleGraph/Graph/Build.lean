import BundleGraph.Graph.Importers
import BundleGraph.Graph.Store

/-! # Building the graph

    The graph of a list of chunks has a node for each chunk with a name and for
    each real module that one carries. Wrappers leave no trace in it:

    - a chunk links to every real module that it carries, at any depth;
    - a reason that names a wrapper becomes a reason from each importer of the
      wrapper.

    Containment comes first, then the imports in the order of the registry. A
    later reason for a pair replaces an earlier one.
-/

namespace BundleGraph

open BundleGraph.Graph

/-! ### Containment -/

namespace Graph.Store

/-- Adds the nodes of a chunk's real modules and the links to them. A module that stands in
    several chunks is represented by its record in the registry. -/
def addContents (registry : Registry) (g : Store) (c : Chunk) : Except Violation Store :=
  (c.carried.filter fun m => !m.isWrapper && m.fileName ≠ "").foldlM
    (fun g m => do
      let g ← g.addModule ((registry.get? m.fileName).getD m)
      g.addLink c.id m.fileName none)
    g

end Graph.Store

/-! ### Imports -/

/-- The explanation of an import that a wrapper stood for. -/
def viaWrapper (wrapper : String) : String := "via concatenated source module: " ++ wrapper

/-- The reason of an import that a wrapper stood for. -/
def Reason.rerouted (r : Reason) (wrapper importer : String) : Reason :=
  ⟨some importer, viaWrapper wrapper, r.type⟩

namespace Resolver

/-- Links for one reason of a real module: none if the reason has no source, names the module
    itself or something unknown; one if it names a real module; and one from each importer if
    it names a wrapper. -/
def linksOfReason (r : Resolver) (target : String) (reason : Reason) :
    List GraphLink × Resolver :=
  match reason.source? with
  | none => ([], r)
  | some origin =>
    if origin = target then ([], r)
    else if r.registry.contains origin then ([⟨origin, target, some reason⟩], r)
    else if r.registry.isWrapper origin then
      let (importers, r) := r.resolve origin
      ((importers.filter fun i => i ≠ target).map fun i =>
        ⟨i, target, some (reason.rerouted origin i)⟩, r)
    else ([], r)

def linksOfReasons (r : Resolver) (target : String) : List Reason → List GraphLink × Resolver
  | [] => ([], r)
  | reason :: rest =>
    let (here, r) := r.linksOfReason target reason
    let (there, r) := linksOfReasons r target rest
    (here ++ there, r)

def linksOfModules (r : Resolver) : List Module → List GraphLink × Resolver
  | [] => ([], r)
  | m :: rest =>
    let (here, r) := r.linksOfReasons m.fileName m.reasons
    let (there, r) := linksOfModules r rest
    (here ++ there, r)

/-- Builds the graph of a list of chunks with the resolver's registry. -/
def build (r : Resolver) (chunks : List Chunk) : Except Violation Store × Resolver :=
  let named := chunks.filter fun c => c.id ≠ ""
  let (imports, r') := r.linksOfModules r.registry.modules.values
  let graph := do
    let g ← named.foldlM Store.addChunk .empty
    let g ← named.foldlM (Store.addContents r.registry) g
    imports.foldlM (fun g l => g.addLink l.source l.target l.reason) g
  (graph, r')

end Resolver

/-- The graph of a list of chunks, with a given registry. -/
def buildGraphWith (registry : Registry) (chunks : List Chunk) : Except Violation GraphData :=
  ((Resolver.ofRegistry registry).build chunks).1.map Store.toGraphData

def buildGraph (chunks : List Chunk) : Except Violation GraphData :=
  buildGraphWith (.build chunks) chunks

end BundleGraph
