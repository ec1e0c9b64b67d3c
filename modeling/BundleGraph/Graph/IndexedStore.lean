import BundleGraph.Graph.Calls
import BundleGraph.Graph.Digraph

/-! # Indexed store

    A graph under construction that is kept in four parts: the graph of a
    library, in which nodes have numbers only, the number of each id, the id of
    each number, and the ids of each kind of nodes.

    Operations change the parts one after the other and can end early; what they
    have changed until then stays changed. Nothing here says that the parts
    agree. That they do, whatever calls were made, and that such a store shows
    what the two maps of a `Store` show, is proved of all calls in turn.
-/

namespace BundleGraph.Graph

/-- What can end an operation early. -/
inductive Interruption where
  | violation (v : Violation)
  /-- A number that was kept is that of no node. -/
  | noNode (number : Nat)
  deriving DecidableEq, Repr

/-- A graph under construction, kept by number. -/
structure IndexedStore (G : Type) where
  /-- The graph of the library. Nodes have their kind with their record. -/
  graph : G
  numberOf : OrderedMap String Nat
  idAt : OrderedMap Nat String
  /-- Ids by kind, each once. -/
  idsByKind : OrderedMap NodeKind (List String)

namespace IndexedStore

variable {G : Type} (lib : Digraph G (NodeKind × NodeData) GraphLink)

def empty : IndexedStore G := ⟨lib.empty, .empty, .empty, .empty⟩

/-! ### Adding -/

/-- Operations on a store. -/
abbrev Action (G : Type) := ExceptT Interruption (StateM (IndexedStore G))

/-- Members of a list with one more, unless it is there. -/
def withMember (ids : List String) (id : String) : List String :=
  if id ∈ ids then ids else ids ++ [id]

/-- Gives a new id a number, and keeps both ways from one to the other. -/
def addNewNode (id : String) (data : NodeData) : Action G Unit := do
  let (graph, i) := lib.addNode (← get).graph (data.kind, data)
  modify fun s => { s with graph }
  modify fun s => { s with numberOf := s.numberOf.insert id i }
  modify fun s => { s with idAt := s.idAt.insert i id }
  modify fun s => { s with
    idsByKind := s.idsByKind.insert data.kind
      (withMember ((s.idsByKind.lookup? data.kind).getD []) id) }

/-- Checks that the node of an id is of the kind that is asked for. -/
def checkKind (id : String) (i : Nat) (new : NodeKind) : Action G Unit := do
  match lib.node? (← get).graph i with
  | some (old, _) => if old ≠ new then throw (.violation (.kindClash id old new))
  | none => throw (.noNode i)

/-- Adds a node; a node of the same kind that is there already stays as it is. -/
def addNode (id : String) (data : NodeData) : Action G Unit := do
  match (← get).numberOf.lookup? id with
  | some i => checkKind lib id i data.kind
  | none => addNewNode lib id data

def addChunk (c : Chunk) : Action G Unit := addNode lib c.id (.chunk c)

def addModule (m : Module) : Action G Unit := do
  if m.isWrapper then throw (.violation (.wrapperNode m.fileName))
  addNode lib m.fileName (.module m)

def addLink (source target : String) (reason : Option Reason) : Action G Unit := do
  let s ← get
  match s.numberOf.lookup? source, s.numberOf.lookup? target with
  | some a, some b => set { s with graph := lib.addLink s.graph a b ⟨source, target, reason⟩ }
  | _, _ =>
    throw (.violation (.missingEnds source target
      ([source, target].filter fun id => !s.numberOf.contains id)))

/-! ### Asking -/

variable (s : IndexedStore G)

def nodeCount : Nat := lib.nodeCount s.graph

def linkCount : Nat := lib.linkCount s.graph

def hasLink (source target : String) : Bool :=
  match s.numberOf.lookup? source, s.numberOf.lookup? target with
  | some a, some b => lib.hasLink s.graph a b
  | _, _ => false

def link? (source target : String) : Option GraphLink :=
  if s.hasLink lib source target then do
    let a ← s.numberOf.lookup? source
    let b ← s.numberOf.lookup? target
    lib.link? s.graph a b
  else none

def idsOfKind (kind : NodeKind) : List String := (s.idsByKind.lookup? kind).getD []

/-- All links, in the order of their numbers. -/
def linkList : List GraphLink :=
  ((lib.links s.graph).entries.mergeSort fun e e' => e.1 ≤ e'.1).map fun e => e.2.2.2

def stats : GraphStats where
  totalNodes := s.nodeCount lib
  totalLinks := s.linkCount lib
  nodesByKind := s.idsByKind.entries.map fun e => (e.1.name, e.2.length)
  orphans := (lib.numbers s.graph).countP fun i =>
    lib.inDegree s.graph i = 0 ∧ lib.outDegree s.graph i = 0

/-- The node of a number, with the targets of the links that start there. -/
def nodeAt (i : Nat) : Option GraphNode := do
  let (kind, data) ← lib.node? s.graph i
  let id ← s.idAt.lookup? i
  return ⟨id, kind, data, ((s.linkList lib).filter fun l => l.source = id).map GraphLink.target⟩

/-- The finished graph, if every number can be followed. Nodes come in the order of their
    numbers. -/
def data? : Option GraphData := do
  let nodes ← ((lib.numbers s.graph).mergeSort fun i j => i ≤ j).mapM (s.nodeAt lib)
  return ⟨nodes, s.linkList lib⟩

/-- Nodes that lie on outgoing paths of a node, if every number can be followed. -/
def descendants? (id : String) : Option (List String) :=
  match s.numberOf.lookup? id with
  | some i => (lib.descendants s.graph i).mapM s.idAt.lookup?
  | none => some []

/-- Nodes from which a node can be reached, if every number can be followed. -/
def ancestors? (id : String) : Option (List String) :=
  match s.numberOf.lookup? id with
  | some i => (lib.ancestors s.graph i).mapM s.idAt.lookup?
  | none => some []

def answers : Answers where
  nodeCount := s.nodeCount lib
  linkCount := s.linkCount lib
  hasLink := s.hasLink lib
  link? := s.link? lib
  idsOfKind := s.idsOfKind
  linkList := s.linkList lib
  stats := s.stats lib
  data? := s.data? lib

end IndexedStore

/-! ### Sequences of calls -/

variable {G : Type} (lib : Digraph G (NodeKind × NodeData) GraphLink)

def Call.action : Call → IndexedStore.Action G Unit
  | chunk c => IndexedStore.addChunk lib c
  | module m => IndexedStore.addModule lib m
  | link source target reason => IndexedStore.addLink lib source target reason

namespace IndexedStore

/-- Makes a call: how it ends, and the store as it is then. -/
def call (s : IndexedStore G) (c : Call) : Except Interruption Unit × IndexedStore G :=
  (c.action lib).run.run s

/-- The store after a sequence of calls, those that ended early included. -/
def after (s : IndexedStore G) : List Call → IndexedStore G
  | [] => s
  | c :: calls => after (s.call lib c).2 calls

/-- The calls of a sequence that did not end early. -/
def accepted (s : IndexedStore G) : List Call → List Call
  | [] => []
  | c :: calls =>
    match s.call lib c with
    | (.ok _, s') => c :: accepted s' calls
    | (.error _, s') => accepted s' calls

end IndexedStore

end BundleGraph.Graph
