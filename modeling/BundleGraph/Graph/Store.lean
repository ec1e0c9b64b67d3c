import BundleGraph.Graph.Data
import BundleGraph.OrderedMap
import BundleGraph.Text.Quoted

/-! # Graph store

    A graph under construction: two maps in order of first insertion, one from
    ids to the records that the nodes stand for and one from ordered pairs of
    ids to the reasons of the links.

    The first record of an id counts, and the last reason of a pair. Both ends
    of a link are nodes; that is a field of the store. An operation that would
    break one of these rules fails and says which.
-/

namespace BundleGraph

open Text

/-- Rules of the store that an operation can break. -/
inductive Violation where
  | wrapperNode (name : String)
  /-- An id stands for a record of another kind already. -/
  | kindClash (id : String) (old new : NodeKind)
  | missingEnds (source target : String) (missing : List String)
  deriving DecidableEq, Repr

def Violation.message : Violation → String
  | wrapperNode name =>
    "Concatenation wrapper " ++ quoted name ++ " cannot become a graph node"
  | kindClash id old new =>
    "Node id " ++ quoted id ++ " is used by both a " ++ old.name ++ " and a " ++ new.name
  | missingEnds source target missing =>
    "Link " ++ quoted source ++ " -> " ++ quoted target ++ " has no node for " ++
      quotedList missing

namespace Graph

structure Store where
  nodes : OrderedMap String NodeData
  links : OrderedMap (String × String) (Option Reason)
  /-- Both ends of a link are nodes. -/
  closed : ∀ p ∈ links.keys, p.1 ∈ nodes.keys ∧ p.2 ∈ nodes.keys

namespace Store

def empty : Store := ⟨.empty, .empty, by simp⟩

/-! ### Adding -/

/-- Adds a node; a node of the same kind that is there already stays as it is. -/
def addNode (g : Store) (id : String) (data : NodeData) : Except Violation Store :=
  match g.nodes.lookup? id with
  | some old =>
    if old.kind = data.kind then .ok g else .error (.kindClash id old.kind data.kind)
  | none =>
    .ok {
      nodes := g.nodes.insertNew id data
      links := g.links
      closed := by
        intro p hp
        have := g.closed p hp
        rw [OrderedMap.keys_insertNew]
        split
        · exact this
        · exact ⟨List.mem_append_left _ this.1, List.mem_append_left _ this.2⟩ }

def addChunk (g : Store) (c : Chunk) : Except Violation Store := g.addNode c.id (.chunk c)

/-- Adds the node of a real module. -/
def addModule (g : Store) (m : Module) : Except Violation Store :=
  if m.isWrapper then .error (.wrapperNode m.fileName) else g.addNode m.fileName (.module m)

/-- Adds a link, or replaces its reason. -/
def addLink (g : Store) (source target : String) (reason : Option Reason) :
    Except Violation Store :=
  if h : source ∈ g.nodes.keys ∧ target ∈ g.nodes.keys then
    .ok {
      nodes := g.nodes
      links := g.links.insert (source, target) reason
      closed := by
        intro p hp
        rw [OrderedMap.keys_insert] at hp
        split at hp
        · exact g.closed p hp
        · rcases List.mem_append.1 hp with hp | hp
          · exact g.closed p hp
          · simp only [List.mem_singleton] at hp
            subst hp
            exact h }
  else .error (.missingEnds source target ([source, target].filter fun id => id ∉ g.nodes.keys))

/-! ### Asking -/

def nodeCount (g : Store) : Nat := g.nodes.size

def linkCount (g : Store) : Nat := g.links.size

def hasLink (g : Store) (source target : String) : Bool := g.links.contains (source, target)

def link? (g : Store) (source target : String) : Option GraphLink :=
  (g.links.lookup? (source, target)).map (GraphLink.mk source target)

/-- Ids of the nodes of a kind, in order of first insertion. -/
def idsOfKind (g : Store) (kind : NodeKind) : List String :=
  (g.nodes.entries.filter fun e => e.2.kind = kind).map Prod.fst

/-- All links, in order of first insertion. -/
def linkList (g : Store) : List GraphLink := g.links.entries.map fun e => ⟨e.1.1, e.1.2, e.2⟩

/-- Targets of the links of a node, in the order of the links. -/
def targets (g : Store) (id : String) : List String :=
  (g.links.keys.filter fun p => p.1 = id).map Prod.snd

/-- Sources of the links to a node, in the order of the links. -/
def sources (g : Store) (id : String) : List String :=
  (g.links.keys.filter fun p => p.2 = id).map Prod.fst

/-- Nodes without any link. -/
def orphans (g : Store) : List String :=
  g.nodes.keys.filter fun id => (g.targets id).isEmpty && (g.sources id).isEmpty

def toGraphData (g : Store) : GraphData where
  nodes := g.nodes.entries.map fun (id, data) => ⟨id, data.kind, data, g.targets id⟩
  links := g.linkList

end Store

end Graph

end BundleGraph
