import BundleGraph.OrderedMap
import BundleGraph.Worklist

/-! # Numbered graphs

    A library of directed graphs hands out a number for each node and for each
    link, and answers by these numbers. There is at most one link for an ordered
    pair of nodes: a second one takes the place of the first.

    `Digraph` is what such a library offers. `Digraph.Lawful` is what it promises
    of nodes and links, as long as nothing is removed from a graph, and
    `Digraph.Traversing` what it promises of following links. `Digraph.plain` is
    the library that numbers nodes and links one after the other.
-/

namespace BundleGraph.Graph

/-- The operations of a library of directed graphs. A graph of type `G` has values of type `ν` at
    its nodes and of type `ε` at its links. -/
structure Digraph (G ν ε : Type) where
  empty : G
  /-- Adds a node and tells its number. -/
  addNode : G → ν → G × Nat
  /-- Adds a link between two nodes, or replaces the value of the one that is there. -/
  addLink : G → Nat → Nat → ε → G
  node? : G → Nat → Option ν
  /-- Numbers of the nodes, in no particular order. -/
  numbers : G → List Nat
  /-- Source, target and value of each link by its number, in no particular order. -/
  links : G → OrderedMap Nat (Nat × Nat × ε)
  hasLink : G → Nat → Nat → Bool
  link? : G → Nat → Nat → Option ε
  inDegree : G → Nat → Nat
  outDegree : G → Nat → Nat
  nodeCount : G → Nat
  linkCount : G → Nat
  /-- Nodes that one or more links lead to from a node, the node itself left out. -/
  descendants : G → Nat → List Nat
  /-- Nodes from which one or more links lead to a node, the node itself left out. -/
  ancestors : G → Nat → List Nat

namespace Digraph

variable {G ν ε : Type}

/-- What a library promises of adding and of asking. Numbers grow, and a link that is there keeps
    its number when its value is replaced. -/
structure Lawful (lib : Digraph G ν ε) : Prop where
  node_empty : ∀ i, lib.node? lib.empty i = none
  links_empty : ∀ e, (lib.links lib.empty).lookup? e = none
  /-- A new node has a larger number than those before. -/
  number_addNode : ∀ g v i, (lib.node? g i).isSome = true → i < (lib.addNode g v).2
  /-- A new node has the given value, and the other nodes keep theirs. -/
  node_addNode : ∀ g v i,
    lib.node? (lib.addNode g v).1 i = if i = (lib.addNode g v).2 then some v else lib.node? g i
  /-- A new node changes no link. -/
  links_addNode : ∀ g v e, (lib.links (lib.addNode g v).1).lookup? e = (lib.links g).lookup? e
  /-- A link changes no node. -/
  node_addLink : ∀ g a b v i, lib.node? (lib.addLink g a b v) i = lib.node? g i
  /-- A link that is there gets the new value and keeps its number. -/
  links_replace : ∀ g a b v e old, (lib.links g).lookup? e = some (a, b, old) → ∀ e',
    (lib.links (lib.addLink g a b v)).lookup? e' =
      if e' = e then some (a, b, v) else (lib.links g).lookup? e'
  /-- A new link between two nodes has a larger number than those before. -/
  links_append : ∀ g a b v, (lib.node? g a).isSome = true → (lib.node? g b).isSome = true →
    (∀ e old, (lib.links g).lookup? e ≠ some (a, b, old)) →
    ∃ e, (∀ e' ∈ (lib.links g).keys, e' < e) ∧ ∀ e',
      (lib.links (lib.addLink g a b v)).lookup? e' =
        if e' = e then some (a, b, v) else (lib.links g).lookup? e'
  mem_numbers : ∀ g i, i ∈ lib.numbers g ↔ (lib.node? g i).isSome = true
  nodup_numbers : ∀ g, (lib.numbers g).Nodup
  hasLink_iff : ∀ g a b,
    lib.hasLink g a b = true ↔ ∃ e v, (lib.links g).lookup? e = some (a, b, v)
  link_eq : ∀ g a b e v, (lib.links g).lookup? e = some (a, b, v) → lib.link? g a b = some v
  inDegree_eq : ∀ g i, lib.inDegree g i = (lib.links g).values.countP fun l => l.2.1 = i
  outDegree_eq : ∀ g i, lib.outDegree g i = (lib.links g).values.countP fun l => l.1 = i
  nodeCount_eq : ∀ g, lib.nodeCount g = (lib.numbers g).length
  linkCount_eq : ∀ g, lib.linkCount g = (lib.links g).size

def Joins (lib : Digraph G ν ε) (g : G) (i j : Nat) : Prop :=
  (lib.node? g i).isSome = true ∧ (lib.node? g j).isSome = true ∧ lib.hasLink g i j = true

/-- What a library promises of following links from a node: it finds what one or more links lead
    to, or come from, and leaves out the node where it starts. -/
structure Traversing (lib : Digraph G ν ε) : Prop where
  mem_descendants : ∀ g i j, (lib.node? g i).isSome = true →
    (j ∈ lib.descendants g i ↔ j ≠ i ∧ Relation.TransGen (lib.Joins g) i j)
  mem_ancestors : ∀ g i j, (lib.node? g i).isSome = true →
    (j ∈ lib.ancestors g i ↔ j ≠ i ∧ Relation.TransGen (lib.Joins g) j i)

end Digraph

/-! ### Numbering one after the other -/

/-- A graph whose nodes and links are numbered in the order in which they came. -/
structure PlainGraph (ν ε : Type) where
  nodes : List ν
  links : OrderedMap (Nat × Nat) ε

namespace PlainGraph

variable {ν ε : Type}

def numberedLinks (g : PlainGraph ν ε) : OrderedMap Nat (Nat × Nat × ε) :=
  ⟨g.links.entries.zipIdx.map fun e => (e.2, e.1.1.1, e.1.1.2, e.1.2), by
    have numbers : (g.links.entries.zipIdx.map fun e => (e.2, e.1.1.1, e.1.1.2, e.1.2)).map Prod.fst
        = List.range' 0 g.links.entries.length := by
      rw [List.map_map, ← List.zipIdx_map_snd]
      rfl
    rw [numbers]
    exact List.nodup_range'⟩

/-- Nodes that one or more steps lead to, the start left out. -/
def reach (g : PlainGraph ν ε) (next : Nat → List Nat) (i : Nat) : List Nat :=
  (Worklist.search next (List.range g.nodes.length) (next i) []).filter fun j => j ≠ i

def targets (g : PlainGraph ν ε) (i : Nat) : List Nat :=
  (g.links.keys.filter fun p => p.1 = i).map Prod.snd

def sources (g : PlainGraph ν ε) (i : Nat) : List Nat :=
  (g.links.keys.filter fun p => p.2 = i).map Prod.fst

end PlainGraph

/-- The library of graphs whose nodes and links are numbered one after the other. -/
def Digraph.plain (ν ε : Type) : Digraph (PlainGraph ν ε) ν ε where
  empty := ⟨[], .empty⟩
  addNode g v := (⟨g.nodes ++ [v], g.links⟩, g.nodes.length)
  addLink g a b v := ⟨g.nodes, g.links.insert (a, b) v⟩
  node? g i := g.nodes[i]?
  numbers g := List.range g.nodes.length
  links g := g.numberedLinks
  hasLink g a b := g.links.contains (a, b)
  link? g a b := g.links.lookup? (a, b)
  inDegree g i := (g.sources i).length
  outDegree g i := (g.targets i).length
  nodeCount g := g.nodes.length
  linkCount g := g.links.size
  descendants g i := g.reach g.targets i
  ancestors g i := g.reach g.sources i

end BundleGraph.Graph
