import BundleGraph.Proofs.Assembly.Analyses
import BundleGraph.Proofs.Graph.Contents

/-! # From records to the graph

    Nothing that a build records is lost on the way to the graph, and nothing is
    invented: there is a node for every key of a chunk record and for every real
    module that the records carry, and a link without a reason for every chunk
    and what it carries (`analyzeBuild_contents`).

    Records and chunks stand side by side, and so does what they carry. A chunk
    record always has a key, so no chunk is without a name.
-/

namespace BundleGraph

open Stats BundleGraph.Graph

/-! ### Records of chunks -/

namespace Stats.ChunkRecord

/-- A chunk record always has a key. -/
theorem key_ne_empty (c : ChunkRecord) : c.key ≠ "" := by
  have hname : ∀ {o : Option String} {n : String}, o.filter (· ≠ "") = some n → n ≠ "" := by
    intro o n h
    simpa using (Option.filter_eq_some_iff.1 h).2
  rw [key]
  split
  · rename_i h
    exact hname h
  · cases hid : (c.id.map BundlerId.text).filter (· ≠ "") with
    | some n => exact hname hid
    | none => simp

/-- `c.Bundles f`: unfolding wrappers, a module at the top level of the record leads to a real
    module with the name `f`, which is not empty. -/
def Bundles (c : ChunkRecord) (f : String) : Prop :=
  f ≠ "" ∧ ∃ top ∈ c.modules, ∃ m, ModuleRecord.carried.Reaches top m ∧
    m.kind ≠ .concatenated ∧ m.fileName = f

/-- The names of the real modules that the record carries, in pre-order. -/
def bundledNames (c : ChunkRecord) : List String :=
  (c.carried.filter fun m => !m.isWrapper && m.fileName ≠ "").map ModuleRecord.fileName

theorem bundles_iff {c : ChunkRecord} {f : String} : c.Bundles f ↔ f ∈ c.bundledNames := by
  rw [bundledNames, List.mem_map, Bundles]
  constructor
  · intro h
    obtain ⟨hne, top, htop, m, hreach, hreal, rfl⟩ := h
    refine ⟨m, List.mem_filter.2 ⟨(Unfolding.mem_walk_iff _ _ _).2 ⟨top, htop, hreach⟩, ?_⟩, rfl⟩
    simpa [ModuleRecord.isWrapper] using ⟨hreal, hne⟩
  · intro h
    obtain ⟨m, hm, rfl⟩ := h
    obtain ⟨hcarried, hkind⟩ := List.mem_filter.1 hm
    obtain ⟨top, htop, hreach⟩ := (Unfolding.mem_walk_iff _ _ _).1 hcarried
    have hkind : m.kind ≠ .concatenated ∧ m.fileName ≠ "" := by
      simpa [ModuleRecord.isWrapper] using hkind
    exact ⟨hkind.2, top, htop, m, hreach, hkind.1, rfl⟩

end Stats.ChunkRecord

/-! ### Records and chunks -/

namespace Prepared

variable {p : Prepared} {r : ChunkRecord} {c : Chunk}

theorem id_eq_key (h : p.chunk r = .ok c) : c.id = r.key := (chunk_eq_ok_iff.1 h).1

/-- A chunk bundles what its record does, in the same order. -/
theorem map_fileName_contents (h : p.chunk r = .ok c) :
    c.contents.map Module.fileName = r.bundledNames := by
  have hkept : List.Forall₂ (p.Makes r.key)
      (r.carried.filter fun m => !m.isWrapper && m.fileName ≠ "") c.contents := by
    refine List.rel_filter ?_ (forall₂_carried h)
    intro m' m hmade
    simp only [Module.isWrapper, ModuleRecord.isWrapper, hmade.kind_eq, hmade.fileName_eq]
  exact map_eq_of_forall₂ (fun _ _ hmade => hmade.fileName_eq) hkept

theorem bundles_iff_record (h : p.chunk r = .ok c) {f : String} : c.Bundles f ↔ r.Bundles f := by
  rw [ChunkRecord.bundles_iff, ← map_fileName_contents h, Chunk.bundles_iff, List.mem_map]

end Prepared

section

variable {lib : Libraries} {disk : Files.Disk} {s : BuildStats} {c : Config} {sizes : Sizes.Report}
  {matcher : ChunkMatcher} {chunks : List Chunk}

theorem forall₂_of_assemble (h : assemble lib disk s c sizes matcher = .ok chunks) :
    List.Forall₂ (fun r ch => ch.id = r.key ∧ ch.contents.map Module.fileName = r.bundledNames ∧
      ∀ f, ch.Bundles f ↔ r.Bundles f) s.chunks chunks :=
  (forall₂_chunks h).imp fun _ _ hch =>
    ⟨Prepared.id_eq_key hch, Prepared.map_fileName_contents hch,
      fun _ => Prepared.bundles_iff_record hch⟩

/-- Every chunk has a name. -/
theorem id_ne_empty_of_assemble (h : assemble lib disk s c sizes matcher = .ok chunks) {ch : Chunk}
    (hch : ch ∈ chunks) : ch.id ≠ "" := by
  obtain ⟨r, _, hkey, _⟩ := exists_of_mem_right (forall₂_of_assemble h) hch
  rw [hkey]
  exact r.key_ne_empty

theorem map_id_of_assemble (h : assemble lib disk s c sizes matcher = .ok chunks) :
    chunks.map Chunk.id = s.chunks.map ChunkRecord.key :=
  map_eq_of_forall₂ (fun _ _ hch => hch.1) (forall₂_of_assemble h)

/-- No chunk is left out of the graph for want of a name. -/
theorem filter_map_id_of_assemble (h : assemble lib disk s c sizes matcher = .ok chunks) :
    (chunks.map Chunk.id).filter (fun id => id ≠ "") = s.chunks.map ChunkRecord.key := by
  rw [map_id_of_assemble h, List.filter_eq_self]
  intro k hk
  obtain ⟨r, _, rfl⟩ := List.mem_map.1 hk
  exact decide_eq_true r.key_ne_empty

/-- The chunks bundle the names that the records do, in the same order. -/
theorem map_contentsOf_of_assemble (h : assemble lib disk s c sizes matcher = .ok chunks) :
    (contentsOf chunks).map (fun p => p.2.fileName) =
      s.chunks.flatMap ChunkRecord.bundledNames := by
  have hall : (chunks.filter fun ch => ch.id ≠ "") = chunks := by
    rw [List.filter_eq_self]
    intro ch hch
    exact decide_eq_true (id_ne_empty_of_assemble h hch)
  have hnames : chunks.map (fun ch => ch.contents.map Module.fileName) =
      s.chunks.map ChunkRecord.bundledNames :=
    map_eq_of_forall₂ (fun _ _ hch => hch.2.1) (forall₂_of_assemble h)
  rw [contentsOf, hall, List.map_flatMap, List.flatMap_def, List.flatMap_def, ← hnames]
  simp only [List.map_map, Function.comp_def]

theorem collides_iff_of_assemble (h : assemble lib disk s c sizes matcher = .ok chunks) :
    (∃ id, Collides chunks id) ↔ ∃ r ∈ s.chunks, ∃ r' ∈ s.chunks, r'.Bundles r.key := by
  have hbundled : ∀ id, (∃ r ∈ s.chunks, r.Bundles id) ↔ ∃ ch ∈ chunks, ch.Bundles id :=
    fun id => exists_mem_iff_of_forall₂ (fun _ _ hch => (hch.2.2 id).symm) (forall₂_of_assemble h)
  rw [exists_mem_iff_of_forall₂ (q := fun ch => ∃ ch' ∈ chunks, ch'.Bundles ch.id)
    (fun r ch hch => by rw [hbundled, hch.1]) (forall₂_of_assemble h)]
  constructor
  · intro hcollides
    obtain ⟨id, ⟨ch, hch, _, rfl⟩, ch', hch', _, hb⟩ := hcollides
    exact ⟨ch, hch, ch', hch', hb⟩
  · intro hcollides
    obtain ⟨ch, hch, ch', hch', hb⟩ := hcollides
    exact ⟨ch.id, ⟨ch, hch, id_ne_empty_of_assemble h hch, rfl⟩, ch', hch',
      id_ne_empty_of_assemble h hch', hb⟩

/-- Without a collision the graph has a node for each key and for each name that the records
    bundle, and links without a reason from keys to what their records bundle. -/
theorem buildGraph_of_assemble (h : assemble lib disk s c sizes matcher = .ok chunks)
    (free : ¬ ∃ id, Collides chunks id) :
    ∃ g, buildGraph chunks = .ok g ∧
      (g.nodes.map fun n => (n.kind, n.id)) =
        (s.chunks.map ChunkRecord.key).eraseDups.map (NodeKind.chunk, ·) ++
        (s.chunks.flatMap ChunkRecord.bundledNames).eraseDups.map (NodeKind.module, ·) ∧
      ∀ k f, (∃ l ∈ g.links, l.source = k ∧ l.target = f ∧ l.reason = none) ↔
        ∃ r ∈ s.chunks, r.key = k ∧ r.Bundles f := by
  rcases buildStore_cases chunks with ⟨id, hid, _⟩ | ⟨free, g, hg, hnodes, hlinks⟩
  · exact absurd ⟨id, hid⟩ free
  refine ⟨g.toGraphData, buildGraph_eq_ok_iff.2 ⟨g, hg, rfl⟩, ?_, fun k f => ?_⟩
  · have hmodules : (Registry.build chunks).modules.keys =
        (s.chunks.flatMap ChunkRecord.bundledNames).eraseDups := by
      rw [Registry.keys_modules_build, map_contentsOf_of_assemble h]
    have hpairs := congrArg (List.map fun n => (n.2.1, n.1)) (map_nodes_toGraphData free hnodes)
    rw [List.map_append, List.map_map, List.map_map, List.map_map,
      filter_map_id_of_assemble h] at hpairs
    rw [← hmodules, OrderedMap.keys, List.map_map]
    exact hpairs
  · rw [exists_content_link_iff free hlinks, exists_mem_iff_of_forall₂
      (fun r ch hch => by rw [← hch.1, ← hch.2.2 f]) (forall₂_of_assemble h)]
    constructor
    · exact fun hch => hch.2
    · intro hch
      obtain ⟨ch, hin, hid, hb⟩ := hch
      exact ⟨hid ▸ id_ne_empty_of_assemble h hin, ch, hin, hid, hb⟩

end

/-! ### The whole analysis -/

/-- The matcher that is given, or else the one that the settings ask for. -/
def Config.matcherOr (lib : Libraries) (c : Config) (matcher? : Option ChunkMatcher) :
    Except Failure ChunkMatcher :=
  match matcher? with
  | some m => .ok m
  | none => c.matcher lib

theorem analyzeBuild_eq (lib : Libraries) (disk : Files.Disk) (s : BuildStats) (c : Config)
    (sizes : Sizes.Report) (matcher? : Option ChunkMatcher) :
    analyzeBuild lib disk s c sizes matcher? = (c.matcherOr lib matcher? >>= fun matcher =>
      assemble lib disk s c sizes matcher >>= fun chunks =>
        (buildGraph chunks).mapError (fun v => .reported (.graph v)) >>= fun g =>
          .ok ⟨s.runtimeUnder c, chunks, g⟩) := by
  cases matcher? <;> rfl

theorem analyzeBuild_of_assemble {lib : Libraries} {disk : Files.Disk} {s : BuildStats} {c : Config}
    {sizes : Sizes.Report} {matcher? : Option ChunkMatcher} {matcher : ChunkMatcher}
    {chunks : List Chunk} (hmatcher : c.matcherOr lib matcher? = .ok matcher)
    (h : assemble lib disk s c sizes matcher = .ok chunks) :
    analyzeBuild lib disk s c sizes matcher? =
      ((buildGraph chunks).mapError fun v => .reported (.graph v)).map
        fun g => ⟨s.runtimeUnder c, chunks, g⟩ := by
  rw [analyzeBuild_eq, hmatcher, ok_bind, h, ok_bind]
  cases buildGraph chunks <;> rfl

/-- A report has the chunks that were assembled, and their graph. -/
theorem exists_matcher_of_analyzeBuild {lib : Libraries} {disk : Files.Disk} {s : BuildStats}
    {c : Config} {sizes : Sizes.Report} {matcher? : Option ChunkMatcher} {report : BuildReport}
    (h : analyzeBuild lib disk s c sizes matcher? = .ok report) :
    ∃ matcher, c.matcherOr lib matcher? = .ok matcher ∧
      assemble lib disk s c sizes matcher = .ok report.chunks ∧
      buildGraph report.chunks = .ok report.graph := by
  rw [analyzeBuild_eq] at h
  obtain ⟨matcher, hmatcher, h⟩ := bind_eq_ok_iff.1 h
  obtain ⟨chunks, hchunks, h⟩ := bind_eq_ok_iff.1 h
  obtain ⟨g, hg, h⟩ := bind_eq_ok_iff.1 h
  obtain rfl := Except.ok.inj h
  exact ⟨matcher, hmatcher, hchunks, mapError_eq_ok_iff.1 hg⟩

/-- **Nothing lost, nothing invented.** Suppose that the chunks of a build can be assembled. Then
    its analysis fails with a broken rule of the graph if and only if the key of a chunk record is
    the name of a real module that some chunk record carries, at the top level or through wrappers.
    Otherwise it goes through. The chunk nodes are then the distinct keys in order of first
    occurrence, and no key is empty; the module nodes are the distinct names of real modules that
    the records carry, in order of first occurrence; and a link without a reason leads from a key to
    a name exactly if a record of that key carries a real module of that name. -/
theorem analyzeBuild_contents {lib : Libraries} {disk : Files.Disk} {s : BuildStats} {c : Config}
    {sizes : Sizes.Report} {matcher? : Option ChunkMatcher} {matcher : ChunkMatcher}
    {chunks : List Chunk} (hmatcher : c.matcherOr lib matcher? = .ok matcher)
    (h : assemble lib disk s c sizes matcher = .ok chunks) :
    ((∃ v, analyzeBuild lib disk s c sizes matcher? = .error (.reported (.graph v))) ↔
      ∃ r ∈ s.chunks, ∃ r' ∈ s.chunks, r'.Bundles r.key) ∧
    (∀ r ∈ s.chunks, r.key ≠ "") ∧
    ((¬ ∃ r ∈ s.chunks, ∃ r' ∈ s.chunks, r'.Bundles r.key) →
      ∃ report, analyzeBuild lib disk s c sizes matcher? = .ok report ∧
        (report.graph.nodes.map fun n => (n.kind, n.id)) =
          (s.chunks.map ChunkRecord.key).eraseDups.map (NodeKind.chunk, ·) ++
          (s.chunks.flatMap ChunkRecord.bundledNames).eraseDups.map (NodeKind.module, ·) ∧
        ∀ k f, (∃ l ∈ report.graph.links, l.source = k ∧ l.target = f ∧ l.reason = none) ↔
          ∃ r ∈ s.chunks, r.key = k ∧ r.Bundles f) := by
  have hanalysis := analyzeBuild_of_assemble hmatcher h
  have hcollides := collides_iff_of_assemble h
  refine ⟨?_, fun r _ => r.key_ne_empty, fun hfree => ?_⟩
  · rw [← hcollides, hanalysis]
    rcases buildStore_cases chunks with ⟨id, hid, herr⟩ | ⟨free, g, hg, _⟩
    · rw [buildGraph_eq, herr]
      exact iff_of_true ⟨_, rfl⟩ ⟨id, hid⟩
    · rw [buildGraph_eq, hg]
      exact iff_of_false nofun (not_exists.2 free)
  · rw [← hcollides] at hfree
    obtain ⟨g, hg, hnodes, hlinks⟩ := buildGraph_of_assemble h hfree
    exact ⟨⟨s.runtimeUnder c, chunks, g⟩, by rw [hanalysis, hg]; rfl, hnodes, hlinks⟩

/-- Two chunks without names. The first one carries a wrapper without a name and what is in it, and
    a source in which another one is nested, which it does not carry. -/
def namelessChunks : BuildStats where
  runtime := none
  context := none
  chunks := [
    ⟨some (.number 7), none, none, true, [
      ⟨none, .concatenated, "", none, [], .null, [
        ⟨none, .normal, "b.js", none, [], .null, []⟩,
        ⟨none, .concatenated, "w.js", none, [], .null,
          [⟨none, .normal, "a.js", none, [], .null, []⟩]⟩]⟩,
      ⟨none, .normal, "a.js", none, [], .null,
        [⟨none, .normal, "c.js", none, [], .null, []⟩]⟩]⟩,
    ⟨none, none, none, false, [⟨none, .external, "ext", none, [], .null, []⟩]⟩]

/-- Its graph has the two chunks under their keys and the three real modules that they carry, and it
    links the first chunk to the source in the inner wrapper. -/
theorem analyzeBuild_contents_namelessChunks :
    Config.standard.matcherOr .plain none = .ok .nothing ∧
    ∃ chunks, assemble .plain .empty namelessChunks .standard .empty .nothing = .ok chunks ∧
    ∃ report, analyzeBuild .plain .empty namelessChunks .standard .empty none = .ok report ∧
      (report.graph.nodes.map fun n => (n.kind, n.id)) =
        [(.chunk, "7"), (.chunk, "chunk-None"), (.module, "b.js"), (.module, "a.js"),
          (.module, "ext")] ∧
      ∃ l ∈ report.graph.links, l.source = "7" ∧ l.target = "a.js" ∧ l.reason = none := by
  have hassembled : (assemble .plain .empty namelessChunks .standard .empty .nothing).toOption.any
      (fun _ => true) = true := by decide +kernel
  have hfree : ¬ ∃ r ∈ namelessChunks.chunks, ∃ r' ∈ namelessChunks.chunks, r'.Bundles r.key := by
    simp only [ChunkRecord.bundles_iff]
    decide +kernel
  have hnodes : (namelessChunks.chunks.map ChunkRecord.key).eraseDups.map (NodeKind.chunk, ·) ++
      (namelessChunks.chunks.flatMap ChunkRecord.bundledNames).eraseDups.map (NodeKind.module, ·) =
        [(.chunk, "7"), (.chunk, "chunk-None"), (.module, "b.js"), (.module, "a.js"),
          (.module, "ext")] := by decide +kernel
  have hlink : ∃ r ∈ namelessChunks.chunks, r.key = "7" ∧ r.Bundles "a.js" := by
    simp only [ChunkRecord.bundles_iff]
    decide +kernel
  have hmatcher : Config.standard.matcherOr .plain none = .ok .nothing := rfl
  obtain ⟨chunks, hchunks, _⟩ := exists_ok_of_any hassembled
  obtain ⟨_, _, hgraph⟩ := analyzeBuild_contents hmatcher hchunks
  obtain ⟨report, hreport, hids, hlinks⟩ := hgraph hfree
  exact ⟨hmatcher, chunks, hchunks, report, hreport, hids.trans hnodes, (hlinks _ _).2 hlink⟩

end BundleGraph
