import BundleGraph.Proofs.BuildReport

/-! # The two lists of chunks in a report

    A written report has its chunks twice: by their names, and as nodes of the
    graph. Both lists have the distinct keys of the chunk records, in order of
    first occurrence. But where several records have one key, the list by names
    has the last of their chunks, and the graph has the first one
    (`chunks_of_written_report`).

    So the lists can differ, though not in everything: sizes are found by the
    key, so they are the same for all chunks of a key.
-/

namespace BundleGraph

open Stats BundleGraph.Graph

/-! ### Reading a written report -/

/-- A member of a document value; null if there is none. -/
def Json.part (j : Json) (name : String) : Json := ((j.member? name).map Subtype.val).getD .null

/-- The chunks by their names in a written report. -/
def chunksIn (j : Json) : List (String × Json) :=
  match j.part "chunks" with
  | .obj members => members
  | _ => []

/-- The id of a written node with its data, if it is the node of a chunk. -/
def chunkOfNode (node : Json) : Option (String × Json) :=
  match node.part "kind", node.part "id" with
  | .str kind, .str id => if kind = NodeKind.chunk.name then some (id, node.part "data") else none
  | _, _ => none

/-- The ids of the chunk nodes in the graph of a written report, with their data. -/
def chunkNodesIn (j : Json) : List (String × Json) :=
  match (j.part "graph").part "nodes" with
  | .arr nodes => nodes.filterMap chunkOfNode
  | _ => []

theorem chunkOfNode_toJson (n : GraphNode) :
    chunkOfNode n.toJson = if n.kind = .chunk then some (n.id, n.data.toJson) else none := by
  cases hkind : n.kind <;>
    simp [chunkOfNode, GraphNode.toJson, Json.part, Json.member?, Json.findMember, hkind,
      NodeKind.name]

theorem chunksIn_toJson (r : BuildReport) :
    chunksIn r.toJson = (r.chunksById.mapValues Chunk.toJson).entries := by
  simp [chunksIn, BuildReport.toJson, Json.part, Json.member?, Json.findMember]

theorem chunkNodesIn_toJson (r : BuildReport) :
    chunkNodesIn r.toJson =
      (r.graph.nodes.filter fun n => n.kind = .chunk).map fun n => (n.id, n.data.toJson) := by
  have hnodes : chunkNodesIn r.toJson =
      (r.graph.nodes.map GraphNode.toJson).filterMap chunkOfNode := by
    simp [chunkNodesIn, BuildReport.toJson, GraphData.toJson, Json.part, Json.member?,
      Json.findMember]
  rw [hnodes, List.filterMap_map]
  induction r.graph.nodes with
  | nil => rfl
  | cons n nodes ih =>
    by_cases hkind : n.kind = .chunk
    · rw [List.filter_cons_of_pos (by simpa using hkind), List.map_cons, ← ih]
      exact List.filterMap_cons_some (by rw [Function.comp_apply, chunkOfNode_toJson, if_pos hkind])
    · rw [List.filter_cons_of_neg (by simpa using hkind), ← ih]
      exact List.filterMap_cons_none (by rw [Function.comp_apply, chunkOfNode_toJson, if_neg hkind])

/-! ### First and last chunks -/

/-- Two chunks of one id and of the same sizes are written alike if they are loaded at the same time
    and their modules are written alike. -/
theorem Chunk.toJson_eq_iff {c c' : Chunk} (hid : c.id = c'.id) (hsizes : c.sizes = c'.sizes) :
    c.toJson = c'.toJson ↔
      c.kind = c'.kind ∧ c.modules.map Module.toJson = c'.modules.map Module.toJson := by
  have hname : c.kind.name = c'.kind.name ↔ c.kind = c'.kind := by
    cases c.kind <;> cases c'.kind <;> simp [ChunkKind.name]
  simp [toJson, hid, hsizes, hname]

/-- Where members have different keys, the first and the last member of a key are one. -/
theorem find?_reverse_eq {α β : Type} [DecidableEq β] {key : α → β} {xs : List α}
    (h : (xs.map key).Nodup) (k : β) :
    (xs.reverse.find? fun x => key x = k) = xs.find? fun x => key x = k := by
  cases hlast : xs.reverse.find? fun x => key x = k with
  | none =>
    rw [eq_comm, List.find?_eq_none]
    intro x hx
    exact List.find?_eq_none.1 hlast x (List.mem_reverse.2 hx)
  | some last =>
    have hmem := List.mem_reverse.1 (List.mem_of_find?_eq_some hlast)
    have hkey : key last = k := by simpa using List.find?_some hlast
    rw [eq_comm, List.find?_eq_some_iff_append]
    obtain ⟨before, after, rfl⟩ := List.append_of_mem hmem
    refine ⟨by simpa using hkey, before, after, rfl, fun x hx => ?_⟩
    -- a member before it would have its key
    rw [List.map_append, List.map_cons, List.nodup_append] at h
    have hne : key x ≠ key last :=
      h.2.2 _ (List.mem_map.2 ⟨x, hx, rfl⟩) _ List.mem_cons_self
    simpa [← hkey] using hne

section

variable {lib : Libraries} {disk : Files.Disk} {s : BuildStats} {c : Config} {sizes : Sizes.Report}
  {matcher : ChunkMatcher} {chunks : List Chunk}

/-- All chunks of a key have the sizes that the size report has for the key. -/
theorem sizes_of_assemble (h : assemble lib disk s c sizes matcher = .ok chunks) {ch : Chunk}
    (hch : ch ∈ chunks) : ch.sizes = sizes.chunkSize ch.id := by
  obtain ⟨r, _, hmade⟩ := exists_of_mem_right (forall₂_chunks h) hch
  obtain ⟨hid, _, hsizes, _⟩ := Prepared.chunk_eq_ok_iff.1 hmade
  rw [hsizes, hid]
  rfl

/-- The first and the last chunk of a key are written alike if they are loaded at the same time and
    their modules are written alike. -/
theorem toJson_eq_iff_of_assemble (h : assemble lib disk s c sizes matcher = .ok chunks)
    {k : String}
    {first last : Chunk} (hfirst : (chunks.find? fun ch => ch.id = k) = some first)
    (hlast : (chunks.reverse.find? fun ch => ch.id = k) = some last) :
    last.toJson = first.toJson ↔
      first.kind = last.kind ∧
        first.modules.map Module.toJson = last.modules.map Module.toJson := by
  have hid : first.id = k := by simpa using List.find?_some hfirst
  have hid' : last.id = k := by simpa using List.find?_some hlast
  have hin : first ∈ chunks := List.mem_of_find?_eq_some hfirst
  have hin' : last ∈ chunks := List.mem_reverse.1 (List.mem_of_find?_eq_some hlast)
  have hsizes : first.sizes = last.sizes := by
    rw [sizes_of_assemble h hin, sizes_of_assemble h hin', hid, hid']
  rw [eq_comm, Chunk.toJson_eq_iff (hid.trans hid'.symm) hsizes]

/-- Every key has a first and a last chunk. -/
theorem exists_first_and_last (h : assemble lib disk s c sizes matcher = .ok chunks) {k : String}
    (hk : k ∈ s.chunks.map ChunkRecord.key) :
    ∃ first last, (chunks.find? fun ch => ch.id = k) = some first ∧
      (chunks.reverse.find? fun ch => ch.id = k) = some last := by
  rw [← map_id_of_assemble h] at hk
  obtain ⟨ch, hch, hid⟩ := List.mem_map.1 hk
  have hfirst : (chunks.find? fun ch => ch.id = k).isSome = true :=
    List.find?_isSome.2 ⟨ch, hch, by simpa using hid⟩
  have hlast : (chunks.reverse.find? fun ch => ch.id = k).isSome = true :=
    List.find?_isSome.2 ⟨ch, List.mem_reverse.2 hch, by simpa using hid⟩
  obtain ⟨first, hfirst⟩ := Option.isSome_iff_exists.1 hfirst
  obtain ⟨last, hlast⟩ := Option.isSome_iff_exists.1 hlast
  exact ⟨first, last, hfirst, hlast⟩

/-- The chunk nodes of the graph: the keys, each with its first chunk. -/
theorem chunk_nodes_of_assemble (h : assemble lib disk s c sizes matcher = .ok chunks)
    {g : GraphData}
    (hg : buildGraph chunks = .ok g) :
    ((g.nodes.filter fun n => n.kind = .chunk).map fun n => (n.id, some n.data)) =
      (s.chunks.map ChunkRecord.key).eraseDups.map fun k =>
        (k, (chunks.find? fun ch => ch.id = k).map NodeData.chunk) := by
  obtain ⟨free, store, rfl, hnodes, _⟩ := exists_store_of_buildGraph hg
  have hall := map_nodes_toGraphData free hnodes
  rw [filter_map_id_of_assemble h] at hall
  -- of the two parts only the first one has chunks
  have hchunks : ∀ n ∈ (s.chunks.map ChunkRecord.key).eraseDups.map (fun k =>
      (k, NodeKind.chunk, (chunks.find? fun ch => ch.id = k).map NodeData.chunk)),
      decide (n.2.1 = .chunk) = true := by
    intro n hn
    obtain ⟨k, _, rfl⟩ := List.mem_map.1 hn
    rfl
  have hmodules : ∀ n ∈ (Registry.build chunks).modules.entries.map (fun e =>
      (e.1, NodeKind.module, some (NodeData.module e.2))), ¬ decide (n.2.1 = .chunk) = true := by
    intro n hn
    obtain ⟨e, _, rfl⟩ := List.mem_map.1 hn
    exact Bool.false_ne_true
  have hkept := congrArg (List.filter fun n => n.2.1 = NodeKind.chunk) hall
  rw [List.filter_map, List.filter_append, List.filter_eq_self.2 hchunks,
    List.filter_eq_nil_iff.2 hmodules, List.append_nil] at hkept
  have hpairs := congrArg (List.map fun n => (n.1, n.2.2)) hkept
  rw [List.map_map, List.map_map] at hpairs
  exact hpairs

end

/-! ### Both lists -/

section

variable {lib : Libraries} {disk : Files.Disk} {s : BuildStats} {c : Config} {sizes : Sizes.Report}
  {matcher : ChunkMatcher} {report : BuildReport}

/-- By their names a report lists the last chunk of each key. -/
theorem map_chunksIn (h : assemble lib disk s c sizes matcher = .ok report.chunks) :
    ((chunksIn report.toJson).map fun e => (e.1, some e.2)) =
      (s.chunks.map ChunkRecord.key).eraseDups.map fun k =>
        (k, (report.chunks.reverse.find? fun ch => ch.id = k).map Chunk.toJson) := by
  have hkeys : report.chunksById.keys = (s.chunks.map ChunkRecord.key).eraseDups := by
    rw [BuildReport.chunksById, OrderedMap.keys_ofListLast, List.map_map, ← map_id_of_assemble h]
    rfl
  have hlast : ∀ k, report.chunksById.lookup? k =
      report.chunks.reverse.find? fun ch => ch.id = k := by
    intro k
    rw [BuildReport.chunksById, OrderedMap.lookup?_ofListLast, ← List.map_reverse,
      OrderedMap.find_map_eq Chunk.id (fun ch => ch), Option.map_id']
  rw [chunksIn_toJson, OrderedMap.map_entries_some, OrderedMap.keys_mapValues, hkeys]
  simp only [OrderedMap.lookup?_mapValues, hlast]

/-- Among the nodes of its graph a report lists the first chunk of each key. -/
theorem map_chunkNodesIn (h : assemble lib disk s c sizes matcher = .ok report.chunks)
    (hg : buildGraph report.chunks = .ok report.graph) :
    ((chunkNodesIn report.toJson).map fun e => (e.1, some e.2)) =
      (s.chunks.map ChunkRecord.key).eraseDups.map fun k =>
        (k, (report.chunks.find? fun ch => ch.id = k).map Chunk.toJson) := by
  have hnodes := congrArg (List.map fun e => (e.1, e.2.map NodeData.toJson))
    (chunk_nodes_of_assemble h hg)
  rw [List.map_map, List.map_map] at hnodes
  rw [chunkNodesIn_toJson, List.map_map]
  refine hnodes.trans ?_
  apply List.map_congr_left
  intro k _
  rw [Function.comp_apply, Option.map_map]
  rfl

/-- The lists have the same keys, so they are compared key by key. -/
theorem chunksIn_eq_iff (h : assemble lib disk s c sizes matcher = .ok report.chunks)
    (hg : buildGraph report.chunks = .ok report.graph) :
    chunksIn report.toJson = chunkNodesIn report.toJson ↔ ∀ k ∈ s.chunks.map ChunkRecord.key,
      (report.chunks.reverse.find? fun ch => ch.id = k).map Chunk.toJson =
        (report.chunks.find? fun ch => ch.id = k).map Chunk.toJson := by
  have hinj : Function.Injective fun e : String × Json => (e.1, some e.2) := by
    intro e e' he
    simpa [Prod.ext_iff] using he
  rw [← hinj.list_map.eq_iff, map_chunksIn h, map_chunkNodesIn h hg, List.map_inj_left]
  simp [Prod.ext_iff]

/-- **First and last.** A report that was made has one chunk for each chunk record, under the key of
    the record. Written down, its chunks by their names are the distinct keys in order of first
    occurrence, each with the last chunk of that key; and the chunk nodes of its graph are the same
    keys in the same order, each with the first chunk. Chunks of one key have the same sizes, which
    the size report has for the key. So the two lists are equal exactly if the first and the last
    chunk of each key are loaded at the same time and have modules that are written alike; which
    they are where no two records have one key. -/
theorem chunks_of_written_report {matcher? : Option ChunkMatcher}
    (h : analyzeBuild lib disk s c sizes matcher? = .ok report) :
    report.chunks.map Chunk.id = s.chunks.map ChunkRecord.key ∧
    ((chunksIn report.toJson).map fun e => (e.1, some e.2)) =
      (s.chunks.map ChunkRecord.key).eraseDups.map (fun k =>
        (k, (report.chunks.reverse.find? fun ch => ch.id = k).map Chunk.toJson)) ∧
    ((chunkNodesIn report.toJson).map fun e => (e.1, some e.2)) =
      (s.chunks.map ChunkRecord.key).eraseDups.map (fun k =>
        (k, (report.chunks.find? fun ch => ch.id = k).map Chunk.toJson)) ∧
    (∀ ch ∈ report.chunks, ch.sizes = sizes.chunkSize ch.id) ∧
    (chunksIn report.toJson = chunkNodesIn report.toJson ↔ ∀ k first last,
      (report.chunks.find? fun ch => ch.id = k) = some first →
      (report.chunks.reverse.find? fun ch => ch.id = k) = some last →
        first.kind = last.kind ∧
        first.modules.map Module.toJson = last.modules.map Module.toJson) ∧
    ((s.chunks.map ChunkRecord.key).Nodup →
      chunksIn report.toJson = chunkNodesIn report.toJson) := by
  obtain ⟨matcher, _, hchunks, hg⟩ := exists_matcher_of_analyzeBuild h
  have hids := map_id_of_assemble hchunks
  refine ⟨hids, map_chunksIn hchunks, map_chunkNodesIn hchunks hg,
    fun ch hch => sizes_of_assemble hchunks hch, ?_, fun hdistinct => ?_⟩
  · rw [chunksIn_eq_iff hchunks hg]
    constructor
    · intro hall k first last hfirst hlast
      have hk : k ∈ s.chunks.map ChunkRecord.key := by
        rw [← hids]
        exact List.mem_map.2 ⟨first, List.mem_of_find?_eq_some hfirst,
          by simpa using List.find?_some hfirst⟩
      have halike := hall k hk
      rw [hfirst, hlast] at halike
      exact (toJson_eq_iff_of_assemble hchunks hfirst hlast).1 (Option.some.inj halike)
    · intro hall k hk
      obtain ⟨first, last, hfirst, hlast⟩ := exists_first_and_last hchunks hk
      rw [hfirst, hlast, Option.map_some, Option.map_some,
        (toJson_eq_iff_of_assemble hchunks hfirst hlast).2 (hall k first last hfirst hlast)]
  · rw [chunksIn_eq_iff hchunks hg]
    intro k _
    rw [find?_reverse_eq (hids ▸ hdistinct)]

end

/-- Two chunks of one key: the name of the first is the identifier of the second. The first is
    loaded with the page, the second on demand. -/
def sharedKey : BuildStats where
  runtime := none
  context := none
  chunks := [
    ⟨none, some "7", none, true, [⟨none, .external, "a", none, [], .null, []⟩]⟩,
    ⟨some (.number 7), none, none, false, [⟨none, .external, "b", none, [], .null, []⟩]⟩]

/-- Its report has one chunk by the name, the second, and one chunk node, the first; and the two are
    not written alike. -/
theorem chunks_of_written_sharedKey :
    ∃ report, analyzeBuild .plain .empty sharedKey .standard .empty none = .ok report ∧
      report.chunks.map Chunk.id = ["7", "7"] ∧
      ((chunksIn report.toJson).map Prod.fst) = ["7"] ∧
      ((chunkNodesIn report.toJson).map Prod.fst) = ["7"] ∧
      chunksIn report.toJson ≠ chunkNodesIn report.toJson := by
  have hmade : (analyzeBuild .plain .empty sharedKey .standard .empty none).toOption.any
      (fun report =>
      (report.chunks.find? fun ch => ch.id = "7").any (fun ch => ch.kind == .sync) &&
        (report.chunks.reverse.find? fun ch => ch.id = "7").any fun ch =>
          ch.kind == .lazy) = true := by
    decide +kernel
  obtain ⟨report, hreport, hkinds⟩ := exists_ok_of_any hmade
  obtain ⟨hids, hlasts, hfirsts, _, hequal, _⟩ := chunks_of_written_report hreport
  have hkeys : (sharedKey.chunks.map ChunkRecord.key).eraseDups = ["7"] := by decide +kernel
  have hnames : ∀ {es : List (String × Json)} {f : String → Option Json},
      (es.map fun e => (e.1, some e.2)) =
        (sharedKey.chunks.map ChunkRecord.key).eraseDups.map (fun k => (k, f k)) →
      es.map Prod.fst = ["7"] := by
    intro es f h
    have hfst := congrArg (List.map Prod.fst) h
    rw [List.map_map, List.map_map, hkeys] at hfst
    exact hfst
  refine ⟨report, hreport, hids.trans (by decide +kernel), hnames hlasts, hnames hfirsts,
    fun hsame => ?_⟩
  obtain ⟨hsync, hlazy⟩ := Bool.and_eq_true_iff.1 hkinds
  rw [Option.any_eq_true] at hsync hlazy
  obtain ⟨first, hfirst, hsync⟩ := hsync
  obtain ⟨last, hlast, hlazy⟩ := hlazy
  have hkind := (hequal.1 hsame "7" first last hfirst hlast).1
  rw [beq_iff_eq] at hsync hlazy
  rw [hsync, hlazy] at hkind
  cases hkind

end BundleGraph
