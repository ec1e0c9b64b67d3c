import BundleGraph.Proofs.Graph.Links

/-! # The nodes of a finished graph

    A finished graph lists the nodes of its store (`mem_nodes_toGraphData_iff`).
    The chunk nodes are the chunks with a name, whatever registry was used, and
    the module nodes are what these bundle (`hasNode_chunk_iff`,
    `hasNode_module_iff`).
-/

namespace BundleGraph

open BundleGraph.Graph

/-- `d.HasNode id kind`: the graph has a node with the id, and it is of the kind. -/
def GraphData.HasNode (d : GraphData) (id : String) (kind : NodeKind) : Prop :=
  ∃ n ∈ d.nodes, n.id = id ∧ n.kind = kind

namespace Graph.Store

theorem map_id_toGraphData (g : Store) : g.toGraphData.nodes.map GraphNode.id = g.nodes.keys := by
  rw [toGraphData, List.map_map]
  rfl

/-- A node depends on the targets that the store has for it. -/
theorem map_dependencies_toGraphData (g : Store) :
    (g.toGraphData.nodes.map fun n => (n.id, n.dependencies)) =
      g.nodes.keys.map fun id => (id, g.targets id) := by
  rw [toGraphData, List.map_map, OrderedMap.keys, List.map_map]
  rfl

theorem mem_targets_iff {g : Store} {s t : String} : t ∈ g.targets s ↔ (s, t) ∈ g.links.keys := by
  rw [targets, List.mem_map]
  constructor
  · intro h
    obtain ⟨k, hk, rfl⟩ := h
    obtain ⟨hk, hs⟩ := List.mem_filter.1 hk
    rw [← of_decide_eq_true hs]
    exact hk
  · intro hk
    exact ⟨(s, t), List.mem_filter.2 ⟨hk, decide_eq_true rfl⟩, rfl⟩

theorem mem_nodes_toGraphData_iff {g : Store} {n : GraphNode} :
    n ∈ g.toGraphData.nodes ↔
      g.nodes.lookup? n.id = some n.data ∧ n.kind = n.data.kind ∧
        n.dependencies = g.targets n.id := by
  rw [toGraphData, ← OrderedMap.mem_entries_iff]
  constructor
  · intro h
    obtain ⟨e, he, rfl⟩ := List.mem_map.1 h
    exact ⟨he, rfl, rfl⟩
  · intro h
    obtain ⟨he, hkind, hdeps⟩ := h
    refine List.mem_map.2 ⟨(n.id, n.data), he, ?_⟩
    cases n
    simp only [GraphNode.mk.injEq, true_and]
    exact ⟨hkind.symm, hdeps.symm⟩

/-- A node has the record that the store keeps under its id. -/
theorem exists_record_iff {g : Store} {id : String} {data : NodeData} :
    (∃ n ∈ g.toGraphData.nodes, n.id = id ∧ n.data = data) ↔ g.nodes.lookup? id = some data := by
  constructor
  · intro h
    obtain ⟨n, hn, rfl, rfl⟩ := h
    exact (mem_nodes_toGraphData_iff.1 hn).1
  · intro h
    exact ⟨⟨id, data.kind, data, g.targets id⟩,
      mem_nodes_toGraphData_iff.2 ⟨h, rfl, rfl⟩, rfl, rfl⟩

theorem exists_node_iff {g : Store} {id : String} :
    (∃ n ∈ g.toGraphData.nodes, n.id = id) ↔ id ∈ g.nodes.keys := by
  constructor
  · intro h
    obtain ⟨n, hn, hid⟩ := h
    exact OrderedMap.mem_keys_of_lookup? (exists_record_iff.1 ⟨n, hn, hid, rfl⟩)
  · intro hid
    obtain ⟨data, hdata⟩ := OrderedMap.exists_lookup?_of_mem_keys hid
    obtain ⟨n, hn, hid, _⟩ := exists_record_iff.2 hdata
    exact ⟨n, hn, hid⟩

theorem hasNode_iff {g : Store} {id : String} {kind : NodeKind} :
    g.toGraphData.HasNode id kind ↔ ∃ data, g.nodes.lookup? id = some data ∧ data.kind = kind := by
  constructor
  · intro h
    obtain ⟨n, hn, hid, rfl⟩ := h
    exact ⟨n.data, exists_record_iff.1 ⟨n, hn, hid, rfl⟩, (mem_nodes_toGraphData_iff.1 hn).2.1.symm⟩
  · intro h
    obtain ⟨data, hdata, rfl⟩ := h
    obtain ⟨n, hn, hid, rfl⟩ := exists_record_iff.2 hdata
    exact ⟨n, hn, hid, (mem_nodes_toGraphData_iff.1 hn).2.1⟩

/-- Modules that are added take no id away from a chunk and give none to one. -/
theorem holdsChunk_insertAllNew {nodes : OrderedMap String NodeData} {id : String}
    (ms : List (String × Module)) :
    HoldsChunk (nodes.insertAllNew (ms.map fun e => (e.1, .module e.2))) id ↔
      HoldsChunk nodes id := by
  induction ms generalizing nodes with
  | nil => rfl
  | cons e ms ih =>
    rw [List.map_cons, OrderedMap.insertAllNew_cons, ih]
    exact holdsChunk_insertNew

end Graph.Store

/-- The chunks with a name provide the id: as their own, or as that of a real module that they
    bundle. -/
def Provides (chunks : List Chunk) (id : String) : Prop :=
  (∃ c ∈ chunks, c.id ≠ "" ∧ c.id = id) ∨ ∃ c ∈ chunks, c.id ≠ "" ∧ c.Bundles id

section

variable {r : Registry} {chunks : List Chunk} {g : Store}

/-- The chunk nodes are the chunks with a name. -/
theorem hasNode_chunk_iff (hn : g.nodes = nodesOf r chunks) {id : String} :
    g.toGraphData.HasNode id .chunk ↔ ∃ c ∈ chunks, c.id ≠ "" ∧ c.id = id := by
  have hmodules : (contentsOf chunks).map (fun p =>
      (p.2.fileName, NodeData.module (r.represent p.2))) =
      ((contentsOf chunks).map fun p => (p.2.fileName, r.represent p.2)).map fun e =>
        (e.1, NodeData.module e.2) := by
    rw [List.map_map]
    rfl
  have hholds : g.toGraphData.HasNode id .chunk ↔ Store.HoldsChunk g.nodes id := by
    rw [Store.hasNode_iff]
    constructor
    · intro h
      obtain ⟨data, hdata, hkind⟩ := h
      cases data with
      | chunk c => exact ⟨c, hdata⟩
      | module m => cases hkind
    · intro h
      obtain ⟨c, hc⟩ := h
      exact ⟨.chunk c, hc, rfl⟩
  rw [hholds, hn, nodesOf, hmodules, Store.holdsChunk_insertAllNew, holdsChunk_chunkNodes_iff]

/-- Without a collision the module nodes are what the chunks with a name bundle. -/
theorem hasNode_module_iff (hn : g.nodes = nodesOf r chunks)
    (free : ∀ id, ¬ Collides chunks id) {id : String} :
    g.toGraphData.HasNode id .module ↔ ∃ c ∈ chunks, c.id ≠ "" ∧ c.Bundles id := by
  have hkeys : id ∈ g.nodes.keys ↔ Provides chunks id := by
    rw [hn]
    exact mem_keys_nodesOf_iff
  constructor
  · intro h
    obtain ⟨data, hdata, hkind⟩ := Store.hasNode_iff.1 h
    rcases hkeys.1 (OrderedMap.mem_keys_of_lookup? hdata) with hchunk | hb
    · -- an id has one node, and that of a chunk is no module node
      obtain ⟨data', hdata', hkind'⟩ := Store.hasNode_iff.1 ((hasNode_chunk_iff hn).2 hchunk)
      obtain rfl := Option.some.inj (hdata.symm.trans hdata')
      rw [hkind] at hkind'
      cases hkind'
    · exact hb
  · intro hb
    obtain ⟨data, hdata⟩ := OrderedMap.exists_lookup?_of_mem_keys (hkeys.2 (Or.inr hb))
    cases hkind : data.kind with
    | module => exact Store.hasNode_iff.2 ⟨data, hdata, hkind⟩
    | chunk =>
      have hchunk := (hasNode_chunk_iff hn).1 (Store.hasNode_iff.2 ⟨data, hdata, hkind⟩)
      exact absurd ⟨hchunk, hb⟩ (free id)

end

end BundleGraph
