import BundleGraph.Graph.Store

/-! # Calls and answers

    What can be asked of a graph under construction (`Call`), and all that it
    shows of itself (`Answers`). `Store.answers` is what the two maps of a store
    show.
-/

namespace BundleGraph.Graph

/-! ### Calls -/

inductive Call where
  | chunk (c : Chunk)
  | module (m : Module)
  /-- A link, with its reason if it is an import. -/
  | link (source target : String) (reason : Option Reason)

namespace Call

def node? : Call → Option (String × NodeData)
  | chunk c => some (c.id, .chunk c)
  | module m => some (m.fileName, .module m)
  | link .. => none

def link? : Call → Option ((String × String) × Option Reason)
  | link source target reason => some ((source, target), reason)
  | _ => none

def apply (g : Store) : Call → Except Violation Store
  | chunk c => g.addChunk c
  | module m => g.addModule m
  | link source target reason => g.addLink source target reason

/-- A store cannot do what is asked: make a wrapper a node, let an id stand for two kinds of
    records, or link what is no node. -/
def Refused (g : Store) : Call → Prop
  | chunk c => ∃ m, g.nodes.lookup? c.id = some (.module m)
  | module m => m.kind = .concatenated ∨ ∃ c, g.nodes.lookup? m.fileName = some (.chunk c)
  | link source target _ => source ∉ g.nodes.keys ∨ target ∉ g.nodes.keys

end Call

/-! ### Answers -/

/-- Counts over a graph under construction. -/
structure GraphStats where
  totalNodes : Nat
  totalLinks : Nat
  /-- Number of nodes by the name of their kind, in the order in which the kinds first came. -/
  nodesByKind : List (String × Nat)
  orphans : Nat
  deriving DecidableEq, Repr

def Store.stats (g : Store) : GraphStats where
  totalNodes := g.nodeCount
  totalLinks := g.linkCount
  nodesByKind := tally (g.nodes.values.map fun d => d.kind.name)
  orphans := g.orphans.length

/-- All that a graph under construction shows. -/
structure Answers where
  nodeCount : Nat
  linkCount : Nat
  hasLink : String → String → Bool
  link? : String → String → Option GraphLink
  idsOfKind : NodeKind → List String
  linkList : List GraphLink
  stats : GraphStats
  /-- The finished graph, if every number can be followed. -/
  data? : Option GraphData

def Store.answers (g : Store) : Answers where
  nodeCount := g.nodeCount
  linkCount := g.linkCount
  hasLink := g.hasLink
  link? := g.link?
  idsOfKind := g.idsOfKind
  linkList := g.linkList
  stats := g.stats
  data? := some g.toGraphData

end BundleGraph.Graph
