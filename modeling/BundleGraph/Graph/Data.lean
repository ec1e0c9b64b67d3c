import BundleGraph.Artifact.Wire
import BundleGraph.OrderedMap

/-! # Graph data

    The finished graph as it is handed on: one node for each chunk and each real
    module, with the record it stands for and the names of the nodes that it
    links to, and the links. A link with a reason is an import, a link without
    one says that a chunk carries a module.

    The summary counts nodes by kind, links, imports, and chunks by the time when
    they are loaded.
-/

namespace BundleGraph

open Document

inductive NodeKind where
  | module
  | chunk
  deriving DecidableEq, Repr

def NodeKind.name : NodeKind → String
  | module => "module"
  | chunk => "chunk"

def NodeKind.names : List (String × NodeKind) := [("module", .module), ("chunk", .chunk)]

inductive NodeData where
  | chunk (c : Chunk)
  | module (m : Module)
  deriving Repr

def NodeData.kind : NodeData → NodeKind
  | chunk _ => .chunk
  | module _ => .module

structure GraphNode where
  /-- Chunk id or file name. -/
  id : String
  kind : NodeKind
  data : NodeData
  /-- Targets of its links, in the order of the links. -/
  dependencies : List String
  deriving Repr

structure GraphLink where
  /-- Node that needs the target. -/
  source : String
  /-- Node that is needed. -/
  target : String
  /-- Why, for an import. -/
  reason : Option Reason
  deriving DecidableEq, Repr

structure GraphData where
  nodes : List GraphNode
  links : List GraphLink
  deriving Repr

/-- The first node of an id. -/
def GraphData.node? (g : GraphData) (id : String) : Option GraphNode :=
  g.nodes.find? fun n => n.id = id

/-! ### On the wire -/

namespace NodeData

/-- Reads the record of a node: a chunk or a module, whichever it can be. -/
def check (j : Json) : Checked NodeData :=
  (eitherRecord "Chunk" "Module" (Chunk.check j) (Module.check j)).map fun
    | .inl c => chunk c
    | .inr m => module m

def toJson : NodeData → Json
  | chunk c => c.toJson
  | module m => m.toJson

end NodeData

namespace GraphNode

def check (j : Json) : Checked GraphNode :=
  object j <|
    GraphNode.mk
      <$> required j (.plain "id") (fun v => string v)
      <*> required j (.plain "kind") (fun v => oneOf NodeKind.names v)
      <*> required j (.plain "data") (fun v => NodeData.check v)
      <*> field j (.plain "dependencies") [] (fun v => strings v)

def toJson (n : GraphNode) : Json :=
  .obj [
    ("id", .str n.id),
    ("kind", .str n.kind.name),
    ("data", n.data.toJson),
    ("dependencies", stringList n.dependencies)]

end GraphNode

namespace GraphLink

def check (j : Json) : Checked GraphLink :=
  object j <|
    GraphLink.mk
      <$> required j (.plain "source") (fun v => string v)
      <*> required j (.plain "target") (fun v => string v)
      <*> field j (.plain "reason") none (fun v => optional Reason.check v)

def toJson (l : GraphLink) : Json :=
  .obj [
    ("source", .str l.source),
    ("target", .str l.target),
    ("reason", match l.reason with
      | some r => r.toJson
      | none => .null)]

end GraphLink

namespace GraphData

def check (j : Json) : Checked GraphData :=
  object j <|
    GraphData.mk
      <$> field j (.plain "nodes") [] (fun v => listOf v.1 fun item => GraphNode.check item)
      <*> field j (.plain "links") [] (fun v => listOf v.1 fun item => GraphLink.check item)

def toJson (g : GraphData) : Json :=
  .obj [
    ("nodes", .arr (g.nodes.map GraphNode.toJson)),
    ("links", .arr (g.links.map GraphLink.toJson))]

end GraphData

/-! ### Counts -/

structure Summary where
  chunks : Nat
  modules : Nat
  links : Nat
  /-- Number of links with a reason. -/
  importLinks : Nat
  /-- Number of chunk nodes by the name of their kind, in order of first occurrence. -/
  chunksByKind : List (String × Nat)
  deriving DecidableEq, Repr

/-- Number of occurrences of each member, in order of first occurrence. -/
def tally (xs : List String) : List (String × Nat) :=
  (firstOccurrences xs).map fun x => (x, xs.count x)

/-- The name of the kind of the record that a node stands for. -/
def NodeData.kindName : NodeData → String
  | chunk c => c.kind.name
  | module m => m.kind.name

def GraphData.summary (g : GraphData) : Summary :=
  let kinds := (g.nodes.filter fun n => n.kind = .chunk).map fun n => n.data.kindName
  { chunks := kinds.length
    modules := g.nodes.countP fun n => n.kind = .module
    links := g.links.length
    importLinks := g.links.countP fun l => l.reason.isSome
    chunksByKind := tally kinds }

def Summary.toJson (s : Summary) : Json :=
  .obj [
    ("chunks", .int s.chunks),
    ("modules", .int s.modules),
    ("links", .int s.links),
    ("import_links", .int s.importLinks),
    ("chunks_by_kind", .obj (s.chunksByKind.map fun (kind, n) => (kind, .int n)))]

end BundleGraph
