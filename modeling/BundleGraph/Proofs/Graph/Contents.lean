import BundleGraph.Proofs.Graph.Links
import Mathlib.Data.Set.Card

/-! # What a graph shows of its chunks

    A build fails exactly if a real module is called like a chunk
    (`buildGraph_fails_iff`). Otherwise the nodes are the chunks with a name and
    then the real modules of the registry, the links without a reason are those
    from a chunk to what it bundles, and every real module has one
    (`buildStore_contents`).

    A chunk without a name changes nothing in the graph
    (`buildStore_filter_named`); it has no links to what it carries.
-/

namespace BundleGraph

open BundleGraph.Graph

/-! ### Failing -/

/-- **Collisions.** A build fails if and only if the id of a chunk, which is not empty, is the name
    of a real module that a chunk with a name carries. The failure is always the clash of the two
    kinds of nodes: no link lacks an end, and no wrapper is offered as a node. -/
theorem buildGraph_fails_iff (chunks : List Chunk) :
    ((∃ v, buildGraph chunks = .error v) ↔ ∃ id, Collides chunks id) ∧
    ((¬ ∃ id, Collides chunks id) → ∃ d, buildGraph chunks = .ok d) ∧
    ∀ v, buildGraph chunks = .error v →
      ∃ id, Collides chunks id ∧ v = .kindClash id .chunk .module := by
  rcases buildStore_cases chunks with ⟨id, hid, herr⟩ | ⟨free, g, hg, _⟩
  · have hfail : buildGraph chunks = .error (.kindClash id .chunk .module) := by
      rw [buildGraph_eq, herr]
      rfl
    refine ⟨⟨fun _ => ⟨id, hid⟩, fun _ => ⟨_, hfail⟩⟩, fun hfree => absurd ⟨id, hid⟩ hfree, ?_⟩
    intro v hv
    rw [hfail] at hv
    exact ⟨id, hid, (Except.error.inj hv).symm⟩
  · have hok : buildGraph chunks = .ok g.toGraphData := buildGraph_eq_ok_iff.2 ⟨g, hg, rfl⟩
    have never : ∀ v, buildGraph chunks ≠ .error v := by
      intro v hv
      rw [hok] at hv
      cases hv
    have unharmed : ¬ ∃ v, buildGraph chunks = .error v := not_exists.2 never
    exact ⟨iff_of_false unharmed (not_exists.2 free), fun _ => ⟨_, hok⟩,
      fun v hv => absurd hv (never v)⟩

/-! ### Nodes -/

theorem keys_chunkNodes (chunks : List Chunk) :
    (chunkNodes chunks).keys = ((chunks.map Chunk.id).filter fun id => id ≠ "").eraseDups := by
  rw [chunkNodes, OrderedMap.keys_ofListFirst, List.map_map, List.filter_map]
  rfl

/-- The first chunk of an id stands for it. -/
theorem lookup?_chunkNodes {chunks : List Chunk} {id : String} (hid : id ≠ "") :
    (chunkNodes chunks).lookup? id = (chunks.find? fun c => c.id = id).map NodeData.chunk := by
  rw [chunkNodes, OrderedMap.lookup?_ofListFirst]
  -- a chunk that is left out has no name, so it is not the one that is looked for
  induction chunks with
  | nil => rfl
  | cons c chunks ih =>
    by_cases hc : c.id = id
    · have hne : c.id ≠ "" := by
        rw [hc]
        exact hid
      rw [List.filter_cons_of_pos (by simpa using hne), List.find?_cons_of_pos (by simpa using hc)]
      exact if_pos hc
    · rw [List.find?_cons_of_neg (by simpa using hc), ← ih]
      by_cases hne : c.id = ""
      · rw [List.filter_cons_of_neg (by simpa using hne)]
      · rw [List.filter_cons_of_pos (by simpa using hne)]
        exact if_neg hc

/-- A carried module is represented by its record in the registry of the chunks. -/
theorem lookup?_modules_of_contents {chunks : List Chunk} {p : Chunk × Module}
    (hp : p ∈ contentsOf chunks) :
    (Registry.build chunks).modules.lookup? p.2.fileName
      = some ((Registry.build chunks).represent p.2) := by
  obtain ⟨⟨hc, hid⟩, hm⟩ := mem_contentsOf_iff.1 hp
  have hreal : (Registry.build chunks).contains p.2.fileName = true :=
    Registry.contains_build_iff.2 ⟨p.1, hc, hid, Chunk.bundles_iff.2 ⟨p.2, hm, rfl⟩⟩
  obtain ⟨m, hlookup⟩ := OrderedMap.exists_lookup?_of_mem_keys (Registry.contains_iff.1 hreal)
  rw [Registry.represent, Registry.get?, hlookup]
  rfl

/-- The real modules that the chunks carry are nodes in the order of the registry, each with its
    record in the registry. -/
theorem entries_nodesOf {chunks : List Chunk} (free : ∀ id, ¬ Collides chunks id) :
    (nodesOf (.build chunks) chunks).entries = (chunkNodes chunks).entries ++
      (Registry.build chunks).modules.entries.map fun e => (e.1, .module e.2) := by
  -- no name of a real module is the id of a chunk
  have apart : ∀ f ∈ (Registry.build chunks).modules.keys, f ∉ (chunkNodes chunks).keys := by
    intro f hf hchunk
    exact free f ⟨mem_keys_chunkNodes_iff.1 hchunk,
      Registry.contains_build_iff.1 (Registry.contains_iff.2 hf)⟩
  have hnames : ((contentsOf chunks).map fun p => (p.2.fileName,
      NodeData.module ((Registry.build chunks).represent p.2))).map Prod.fst
        = (contentsOf chunks).map fun p => p.2.fileName := by
    rw [List.map_map]
    rfl
  apply OrderedMap.entries_eq_of_keys
  · have hdisjoint : ∀ f ∈ (contentsOf chunks).map (fun p => p.2.fileName),
        f ∉ (chunkNodes chunks).keys := by
      intro f hf
      apply apart f
      rw [Registry.keys_modules_build, List.mem_eraseDups]
      exact hf
    rw [nodesOf, OrderedMap.keys_insertAllNew, hnames, eraseDups_append_of_disjoint hdisjoint,
      eraseDups_eq_self (chunkNodes chunks).nodup_keys, ← Registry.keys_modules_build,
      List.map_append, List.map_map]
    rfl
  · intro e he
    rw [nodesOf, OrderedMap.lookup?_insertAllNew]
    rcases List.mem_append.1 he with he | he
    · rw [(OrderedMap.mem_entries_iff (chunkNodes chunks) e.1 e.2).1 he]
      rfl
    · obtain ⟨⟨f, m⟩, hfm, rfl⟩ := List.mem_map.1 he
      have hlookup := (OrderedMap.mem_entries_iff _ f m).1 hfm
      have hf := OrderedMap.mem_keys_of_lookup? hlookup
      rw [(OrderedMap.lookup?_eq_none_iff (chunkNodes chunks) f).2 (apart f hf), Option.none_or]
      -- all carried modules of the name have the same representative, which is `m`
      have hsome : (OrderedMap.find f ((contentsOf chunks).map fun p => (p.2.fileName,
          NodeData.module ((Registry.build chunks).represent p.2)))).isSome = true := by
        rw [OrderedMap.find_isSome, hnames, ← List.mem_eraseDups, ← Registry.keys_modules_build]
        exact hf
      obtain ⟨data, hdata⟩ := Option.isSome_iff_exists.1 hsome
      obtain ⟨p, hp, hpair⟩ := List.mem_map.1 (OrderedMap.mem_of_find_eq_some hdata)
      have hname : p.2.fileName = f := (Prod.ext_iff.1 hpair).1
      have hrep : .module ((Registry.build chunks).represent p.2) = data := (Prod.ext_iff.1 hpair).2
      have hsame := lookup?_modules_of_contents hp
      rw [hname, hlookup] at hsame
      rw [hdata, ← hrep, ← Option.some.inj hsame]

/-- The node of a real module has its record in the registry. -/
theorem lookup?_nodesOf_module_iff {chunks : List Chunk} (free : ∀ id, ¬ Collides chunks id)
    {f : String} {m : Module} :
    (nodesOf (.build chunks) chunks).lookup? f = some (.module m) ↔
      (Registry.build chunks).modules.lookup? f = some m := by
  rw [← OrderedMap.mem_entries_iff, ← OrderedMap.mem_entries_iff, entries_nodesOf free,
    List.mem_append]
  constructor
  · intro h
    rcases h with h | h
    · -- the chunks come first, and none of them is a module
      have hchunk := (OrderedMap.mem_entries_iff (chunkNodes chunks) f (.module m)).1 h
      rw [chunkNodes, OrderedMap.lookup?_ofListFirst] at hchunk
      obtain ⟨c, _, hc⟩ := List.mem_map.1 (OrderedMap.mem_of_find_eq_some hchunk)
      cases hc
    · obtain ⟨e, he, hpair⟩ := List.mem_map.1 h
      cases hpair
      exact he
  · intro h
    exact Or.inr (List.mem_map.2 ⟨(f, m), h, rfl⟩)

/-! ### Links and orphans -/

section

variable {chunks : List Chunk} (free : ∀ id, ¬ Collides chunks id)
include free

/-- Every link leads to a real module. -/
theorem contains_target_of_link {s t : String}
    (h : (s, t) ∈ (linksOf (.build chunks) chunks).keys) :
    (Registry.build chunks).contains t = true := by
  rw [keys_linksOf free, List.mem_append, List.mem_eraseDups] at h
  rcases h with h | h
  · obtain ⟨hne, ch, hch, hid, hb⟩ := mem_keys_containment_iff.1 h
    exact Registry.contains_build_iff.2 ⟨ch, hch, hid ▸ hne, hb⟩
  · obtain ⟨m, hm, _⟩ := (mem_ends_importLinks_iff (Registry.build_sound chunks)).1 h
    exact Registry.contains_iff.2 (OrderedMap.mem_keys_of_lookup? hm)

/-- A link from a chunk leads to what a chunk of that id bundles. -/
theorem bundles_of_link {c f : String} (hc : (Registry.build chunks).contains c = false)
    (h : (c, f) ∈ (linksOf (.build chunks) chunks).keys) :
    c ≠ "" ∧ ∃ ch ∈ chunks, ch.id = c ∧ ch.Bundles f := by
  rw [keys_linksOf free, List.mem_append, List.mem_eraseDups] at h
  rcases h with h | h
  · exact mem_keys_containment_iff.1 h
  · obtain ⟨m, hm, _, reason, _, hs⟩ := (mem_ends_importLinks_iff (Registry.build_sound chunks)).1 h
    rw [Registry.contains_of_mem_sourcesOf hs] at hc
    cases hc

/-- A node without links is a chunk with a name that bundles nothing, in none of its copies. -/
theorem mem_orphans_iff {g : Store} (hnodes : g.nodes = nodesOf (.build chunks) chunks)
    (hlinks : g.links = linksOf (.build chunks) chunks) {id : String} :
    id ∈ g.orphans ↔ id ≠ "" ∧ (∃ ch ∈ chunks, ch.id = id) ∧
      ∀ ch ∈ chunks, ch.id = id → ∀ f, ¬ ch.Bundles f := by
  have lonely : id ∈ g.orphans ↔ id ∈ (nodesOf (.build chunks) chunks).keys ∧
      (∀ f, (id, f) ∉ (linksOf (.build chunks) chunks).keys) ∧
        ∀ c, (c, id) ∉ (linksOf (.build chunks) chunks).keys := by
    rw [Store.orphans, List.mem_filter, hnodes, Bool.and_eq_true, List.isEmpty_iff,
      List.isEmpty_iff, Store.targets, Store.sources, List.map_eq_nil_iff, List.map_eq_nil_iff,
      List.filter_eq_nil_iff, List.filter_eq_nil_iff, hlinks]
    simp only [decide_eq_true_eq, Prod.forall]
    constructor
    · intro h
      obtain ⟨hid, hout, hin⟩ := h
      exact ⟨hid, fun f hf => hout id f hf rfl, fun c hc => hin c id hc rfl⟩
    · intro h
      obtain ⟨hid, hout, hin⟩ := h
      refine ⟨hid, fun a b hab ha => ?_, fun a b hab hb => ?_⟩
      · subst ha
        exact hout b hab
      · subst hb
        exact hin a hab
  -- a chunk that bundles something has a link from it, a real module has one to it
  rw [lonely, mem_keys_nodesOf_iff]
  constructor
  · intro h
    obtain ⟨hid, hout, hin⟩ := h
    have linked : ∀ ch ∈ chunks, ch.id ≠ "" → ∀ f, ch.Bundles f →
        (ch.id, f) ∈ (linksOf (.build chunks) chunks).keys := by
      intro ch hch hne f hf
      rw [keys_linksOf free]
      exact List.mem_append_left _ (mem_keys_containment_iff.2 ⟨hne, ch, hch, rfl, hf⟩)
    rcases hid with ⟨c, hc, hne, hid⟩ | ⟨c, hc, hne, hb⟩
    · subst hid
      refine ⟨hne, ⟨c, hc, rfl⟩, fun ch hch hid f hf => ?_⟩
      rw [← hid] at hne hout
      exact hout f (linked ch hch hne f hf)
    · exact absurd (linked c hc hne id hb) (hin c.id)
  · intro h
    obtain ⟨hne, ⟨c, hc, hid⟩, hnone⟩ := h
    have hchunk : (Registry.build chunks).contains id = false := by
      rw [← hid] at hne ⊢
      exact not_contains_of_chunk free hc hne
    refine ⟨Or.inl ⟨c, hc, hid ▸ hne, hid⟩, fun f hf => ?_, fun s hs => ?_⟩
    · obtain ⟨_, ch, hch, hid, hb⟩ := bundles_of_link free hchunk hf
      exact hnone ch hch hid f hb
    · rw [contains_target_of_link free hs] at hchunk
      cases hchunk

/-- The nodes of a finished graph: the chunks with a name, then the real modules. -/
theorem map_nodes_toGraphData {g : Store} (hnodes : g.nodes = nodesOf (.build chunks) chunks) :
    (g.toGraphData.nodes.map fun n => (n.id, n.kind, some n.data)) =
      ((chunks.map Chunk.id).filter fun id => id ≠ "").eraseDups.map (fun id =>
        (id, NodeKind.chunk, (chunks.find? fun c => c.id = id).map NodeData.chunk)) ++
      (Registry.build chunks).modules.entries.map (fun e =>
        (e.1, NodeKind.module, some (NodeData.module e.2))) := by
  have hplain : (g.toGraphData.nodes.map fun n => (n.id, n.kind, some n.data)) =
      g.nodes.entries.map fun e => (e.1, e.2.kind, some e.2) := by
    rw [Store.toGraphData, List.map_map]
    rfl
  rw [hplain, hnodes, entries_nodesOf free, List.map_append, List.map_map, ← keys_chunkNodes,
    OrderedMap.keys, List.map_map]
  congr 1
  apply List.map_congr_left
  intro e he
  have hlookup := (OrderedMap.mem_entries_iff (chunkNodes chunks) e.1 e.2).1 he
  have hne : e.1 ≠ "" := by
    obtain ⟨c, _, hc, hid⟩ := mem_keys_chunkNodes_iff.1 (OrderedMap.mem_keys_of_lookup? hlookup)
    rw [← hid]
    exact hc
  rw [lookup?_chunkNodes hne] at hlookup
  obtain ⟨c, _, hc⟩ := Option.map_eq_some_iff.1 hlookup
  rw [Function.comp_apply, hlookup, ← hc]
  rfl

/-- Every node is that of a chunk with a name or that of a real module. -/
theorem node_cases {g : Store} (hnodes : g.nodes = nodesOf (.build chunks) chunks)
    {n : GraphNode} (hn : n ∈ g.toGraphData.nodes) :
    (n.kind = .chunk ∧ (Registry.build chunks).contains n.id = false) ∨
      (n.kind = .module ∧ (Registry.build chunks).contains n.id = true) := by
  have hmem : (n.id, n.kind, some n.data) ∈
      g.toGraphData.nodes.map fun n => (n.id, n.kind, some n.data) := List.mem_map.2 ⟨n, hn, rfl⟩
  rw [map_nodes_toGraphData free hnodes, List.mem_append] at hmem
  rcases hmem with hmem | hmem
  · obtain ⟨id, hid, hpair⟩ := List.mem_map.1 hmem
    obtain ⟨hname, hrest⟩ := Prod.ext_iff.1 hpair
    rw [← keys_chunkNodes] at hid
    obtain ⟨c, hc, hne, hcid⟩ := mem_keys_chunkNodes_iff.1 hid
    left
    refine ⟨(Prod.ext_iff.1 hrest).1.symm, ?_⟩
    rw [show n.id = c.id from hname.symm.trans hcid.symm]
    exact not_contains_of_chunk free hc hne
  · obtain ⟨e, he, hpair⟩ := List.mem_map.1 hmem
    obtain ⟨hname, hrest⟩ := Prod.ext_iff.1 hpair
    right
    refine ⟨(Prod.ext_iff.1 hrest).1.symm, ?_⟩
    rw [show n.id = e.1 from hname.symm, Registry.contains_iff]
    exact List.mem_map.2 ⟨e, he, rfl⟩

/-- A chunk node does not have the name of a real module. -/
theorem not_contains_of_chunk_node {g : Store} (hnodes : g.nodes = nodesOf (.build chunks) chunks)
    {n : GraphNode} (hn : n ∈ g.toGraphData.nodes) (hkind : n.kind = .chunk) :
    (Registry.build chunks).contains n.id = false := by
  rcases node_cases free hnodes hn with ⟨_, hreal⟩ | ⟨hmodule, _⟩
  · exact hreal
  · rw [hkind] at hmodule
    cases hmodule

/-- The module nodes are the real modules. -/
theorem exists_module_node_iff {g : Store} (hnodes : g.nodes = nodesOf (.build chunks) chunks)
    {f : String} : (∃ n ∈ g.toGraphData.nodes, n.kind = .module ∧ n.id = f) ↔
      (Registry.build chunks).contains f = true := by
  constructor
  · intro h
    obtain ⟨n, hn, hkind, hid⟩ := h
    rcases node_cases free hnodes hn with ⟨hchunk, _⟩ | ⟨_, hreal⟩
    · rw [hkind] at hchunk
      cases hchunk
    · rw [← hid]
      exact hreal
  · intro hreal
    obtain ⟨e, he, hname⟩ := List.mem_map.1 (Registry.contains_iff.1 hreal)
    have hmem : (e.1, NodeKind.module, some (NodeData.module e.2)) ∈
        g.toGraphData.nodes.map fun n => (n.id, n.kind, some n.data) := by
      rw [map_nodes_toGraphData free hnodes]
      exact List.mem_append_right _ (List.mem_map.2 ⟨e, he, rfl⟩)
    obtain ⟨n, hn, hpair⟩ := List.mem_map.1 hmem
    obtain ⟨hid, hrest⟩ := Prod.ext_iff.1 hpair
    exact ⟨n, hn, (Prod.ext_iff.1 hrest).1, hid.trans hname⟩

/-- The links without a reason are those from a chunk with a name to what it bundles. -/
theorem exists_content_link_iff {g : Store} (hlinks : g.links = linksOf (.build chunks) chunks)
    {c f : String} :
    (∃ l ∈ g.toGraphData.links, l.source = c ∧ l.target = f ∧ l.reason = none) ↔
      c ≠ "" ∧ ∃ ch ∈ chunks, ch.id = c ∧ ch.Bundles f := by
  rw [← mem_keys_containment_iff, ← lookup?_linksOf_eq_none_iff free, ← hlinks]
  constructor
  · intro h
    obtain ⟨l, hl, hsrc, htgt, hreason⟩ := h
    rw [← hsrc, ← htgt, ← hreason]
    exact Store.mem_linkList_iff.1 hl
  · intro hlookup
    exact ⟨⟨c, f, none⟩, Store.mem_linkList_iff.2 hlookup, rfl, rfl, rfl⟩

/-- A link has a reason exactly if it starts at a real module. -/
theorem reason_isSome_iff {g : Store} (hlinks : g.links = linksOf (.build chunks) chunks)
    {l : GraphLink} (hl : l ∈ g.toGraphData.links) :
    l.reason.isSome = true ↔ (Registry.build chunks).contains l.source = true := by
  have hlookup : (linksOf (.build chunks) chunks).lookup? l.ends = some l.reason := by
    rw [← hlinks]
    exact Store.mem_linkList_iff.1 hl
  cases hreason : l.reason with
  | some q =>
    rw [hreason] at hlookup
    have himport := (exists_lookup?_linksOf_iff free).1 ⟨q, hlookup⟩
    obtain ⟨m, _, _, reason, _, hs⟩ :=
      (mem_ends_importLinks_iff (Registry.build_sound chunks)).1 himport
    simp [Registry.contains_of_mem_sourcesOf hs]
  | none =>
    rw [hreason] at hlookup
    have hcontent := (lookup?_linksOf_eq_none_iff free).1 hlookup
    obtain ⟨hne, ch, hch, hid, _⟩ := mem_keys_containment_iff.1 hcontent
    rw [← hid] at hne ⊢
    simp [not_contains_of_chunk free hch hne]

end

/-! ### The finished graph -/

/-- Every node of a finished graph is counted once, as a chunk or as a module. -/
theorem GraphData.summary_chunks_add_modules (d : GraphData) :
    d.summary.chunks + d.summary.modules = d.nodes.length := by
  have hmodules : d.nodes.countP (fun n => ¬ (decide (n.kind = .chunk)) = true)
      = d.nodes.countP fun n => n.kind = .module := by
    apply List.countP_congr
    intro n _
    cases n.kind <;> simp
  rw [List.length_eq_countP_add_countP (fun n => decide (n.kind = .chunk)), hmodules]
  simp [summary, List.countP_eq_length_filter]

/-- **Contents.** The nodes of a graph are the distinct ids of the chunks with a name, each with its
    first chunk, and then the real modules of the registry, each with its record there. The links
    without a reason are those from a chunk with a name to what it bundles. No link leads to a
    chunk, and to every real module leads a link without a reason; so the nodes without links are
    the chunks with a name that bundle nothing. The summary counts as imports the links that start
    at a module, and every node as a chunk or a module. -/
theorem buildStore_contents {chunks : List Chunk} {g : Store} (h : buildStore chunks = .ok g) :
    buildGraph chunks = .ok g.toGraphData ∧
    (g.toGraphData.nodes.map fun n => (n.id, n.kind, some n.data)) =
      ((chunks.map Chunk.id).filter fun id => id ≠ "").eraseDups.map (fun id =>
        (id, NodeKind.chunk, (chunks.find? fun c => c.id = id).map NodeData.chunk)) ++
      (Registry.build chunks).modules.entries.map (fun e =>
        (e.1, NodeKind.module, some (NodeData.module e.2))) ∧
    (∀ c f, (∃ l ∈ g.toGraphData.links, l.source = c ∧ l.target = f ∧ l.reason = none) ↔
      c ≠ "" ∧ ∃ ch ∈ chunks, ch.id = c ∧ ch.Bundles f) ∧
    (∀ l ∈ g.toGraphData.links, ∀ n ∈ g.toGraphData.nodes, n.kind = .chunk → l.target ≠ n.id) ∧
    (∀ n ∈ g.toGraphData.nodes, n.kind = .module →
      ∃ l ∈ g.toGraphData.links, l.target = n.id ∧ l.reason = none) ∧
    g.orphans.length = {id | id ≠ "" ∧ (∃ ch ∈ chunks, ch.id = id) ∧
      ∀ ch ∈ chunks, ch.id = id → ∀ f, ¬ ch.Bundles f}.ncard ∧
    g.toGraphData.summary.importLinks = g.toGraphData.links.countP (fun l =>
      decide (∃ n ∈ g.toGraphData.nodes, n.kind = .module ∧ n.id = l.source)) ∧
    g.toGraphData.summary.chunks + g.toGraphData.summary.modules = g.toGraphData.nodes.length := by
  obtain ⟨free, hnodes, hlinks⟩ := spec_of_buildStore h
  have hcontent : ∀ c f,
      (∃ l ∈ g.toGraphData.links, l.source = c ∧ l.target = f ∧ l.reason = none) ↔
      c ≠ "" ∧ ∃ ch ∈ chunks, ch.id = c ∧ ch.Bundles f :=
    fun c f => exists_content_link_iff free hlinks
  refine ⟨buildGraph_eq_ok_iff.2 ⟨g, h, rfl⟩, map_nodes_toGraphData free hnodes, hcontent,
    ?_, ?_, ?_, ?_, g.toGraphData.summary_chunks_add_modules⟩
  · intro l hl n hn hkind hsame
    have hlink : (l.source, l.target) ∈ (linksOf (.build chunks) chunks).keys := by
      rw [← hlinks]
      exact OrderedMap.mem_keys_of_lookup? (Store.mem_linkList_iff.1 hl)
    have hreal := contains_target_of_link free hlink
    rw [hsame, not_contains_of_chunk_node free hnodes hn hkind] at hreal
    cases hreal
  · intro n hn hkind
    have hreal := (exists_module_node_iff free hnodes).1 ⟨n, hn, hkind, rfl⟩
    obtain ⟨ch, hch, hne, hb⟩ := Registry.contains_build_iff.1 hreal
    obtain ⟨l, hl, _, htgt, hreason⟩ := (hcontent ch.id n.id).2 ⟨hne, ch, hch, rfl, hb⟩
    exact ⟨l, hl, htgt, hreason⟩
  -- the list of orphans has no duplicates, so its length counts the set
  · have hset : {id | id ≠ "" ∧ (∃ ch ∈ chunks, ch.id = id) ∧
        ∀ ch ∈ chunks, ch.id = id → ∀ f, ¬ ch.Bundles f} = (g.orphans.toFinset : Set String) := by
      ext id
      rw [Finset.mem_coe, List.mem_toFinset, mem_orphans_iff free hnodes hlinks]
      rfl
    have hnodup : g.orphans.Nodup := g.nodes.nodup_keys.filter _
    rw [hset, Set.ncard_coe_finset, List.toFinset_card_of_nodup hnodup]
  · apply List.countP_congr
    intro l hl
    rw [decide_eq_true_eq, exists_module_node_iff free hnodes]
    exact reason_isSome_iff free hlinks hl

/-- In the small bundle the chunk comes before its three real modules, links to the one inside the
    wrapper, and no node is without links. -/
theorem buildStore_contents_smallBundle :
    ∃ g, buildStore smallBundle = .ok g ∧
      g.toGraphData.nodes.map GraphNode.id = ["main", "a.js", "b.js", "t.js"] ∧
      (∃ l ∈ g.toGraphData.links, l.source = "main" ∧ l.target = "b.js" ∧ l.reason = none) ∧
      g.orphans.length = 0 := by
  obtain ⟨g, hg⟩ := exists_buildStore not_collides_smallBundle
  obtain ⟨_, hnodes, hcontent, _, _, horphans, _⟩ := buildStore_contents hg
  have inside : ∃ ch ∈ smallBundle, ch.id = "main" ∧ ch.Bundles "b.js" := by
    obtain ⟨ch, hch, _, hb⟩ := Registry.contains_build_iff.1
      (contains_smallBundle_iff.2 (by decide : "b.js" ∈ ["a.js", "b.js", "t.js"]))
    have hid : ch.id = "main" := by
      rw [smallBundle, List.mem_singleton] at hch
      rw [hch]
    exact ⟨ch, hch, hid, hb⟩
  refine ⟨g, hg, ?_, (hcontent "main" "b.js").2 ⟨by decide, inside⟩, ?_⟩
  · rw [modules_smallBundle] at hnodes
    have hids := congrArg (List.map Prod.fst) hnodes
    rw [List.map_map] at hids
    exact hids
  · have hnone : {id | id ≠ "" ∧ (∃ ch ∈ smallBundle, ch.id = id) ∧
        ∀ ch ∈ smallBundle, ch.id = id → ∀ f, ¬ ch.Bundles f} = (∅ : Set String) := by
      ext id
      constructor
      · intro h
        obtain ⟨_, ⟨c, hc, hid⟩, hbare⟩ := h
        obtain ⟨ch, hch, hmain, hb⟩ := inside
        rw [smallBundle, List.mem_singleton] at hc hch
        rw [hc] at hid
        exact hbare ch (hch ▸ List.mem_singleton_self _) (hmain.trans hid) "b.js" hb
      · intro hid
        exact absurd hid (Set.notMem_empty id)
    rw [horphans, hnone, Set.ncard_empty]

/-! ### Chunks without a name -/

/-- Chunks without a name change nothing in a graph. -/
theorem buildStore_filter_named (chunks : List Chunk) :
    buildStore (chunks.filter fun c => c.id ≠ "") = buildStore chunks := by
  have hcarried :
      Registry.carried (chunks.filter fun c => c.id ≠ "") = Registry.carried chunks := by
    rw [Registry.carried, Registry.carried, List.filter_filter]
    simp
  have hregistry : Registry.build (chunks.filter fun c => c.id ≠ "") = Registry.build chunks := by
    rw [Registry.build, Registry.build, hcarried]
  rw [buildStore, buildStore, hregistry, Resolver.build, Resolver.build,
    List.filter_filter]
  simp

/-- Whatever a chunk without a name carries, nothing is built from it alone. -/
theorem buildStore_nameless (kind : ChunkKind) (sizes : SizeMetrics) (modules : List Module) :
    buildStore [⟨"", kind, sizes, modules⟩] = .ok .empty := by
  rw [← buildStore_filter_named]
  rfl

/-- So a chunk without a name has no link to the real module that it bundles, and it is not counted
    among the nodes without links when it bundles nothing. -/
theorem nameless_chunk_left_out :
    (∃ g, buildStore [⟨"", .sync, .zero, [.bare .normal "f.js" [] []]⟩] = .ok g ∧
      ¬ ∀ c f, (∃ l ∈ g.toGraphData.links, l.source = c ∧ l.target = f ∧ l.reason = none) ↔
        ∃ ch ∈ [(⟨"", .sync, .zero, [.bare .normal "f.js" [] []]⟩ : Chunk)],
          ch.id = c ∧ ch.Bundles f) ∧
    ∃ g, buildStore [⟨"", .sync, .zero, []⟩] = .ok g ∧
      g.orphans.length ≠ {id | (∃ ch ∈ [(⟨"", .sync, .zero, []⟩ : Chunk)], ch.id = id) ∧
        ∀ ch ∈ [(⟨"", .sync, .zero, []⟩ : Chunk)], ch.id = id → ∀ f, ¬ ch.Bundles f}.ncard := by
  constructor
  · refine ⟨_, buildStore_nameless _ _ _, fun h => ?_⟩
    have hb : Chunk.Bundles ⟨"", .sync, .zero, [.bare .normal "f.js" [] []]⟩ "f.js" :=
      ⟨by decide, .bare .normal "f.js" [] [],
        ⟨_, List.mem_singleton_self _, .itself _⟩, by decide, rfl⟩
    obtain ⟨l, hl, _⟩ := (h "" "f.js").2 ⟨_, List.mem_singleton_self _, rfl, hb⟩
    exact List.not_mem_nil hl
  · refine ⟨_, buildStore_nameless _ _ _, ?_⟩
    have hset : {id | (∃ ch ∈ [(⟨"", .sync, .zero, []⟩ : Chunk)], ch.id = id) ∧
        ∀ ch ∈ [(⟨"", .sync, .zero, []⟩ : Chunk)], ch.id = id → ∀ f, ¬ ch.Bundles f} = {""} := by
      ext id
      rw [Set.mem_singleton_iff]
      constructor
      · intro h
        obtain ⟨⟨c, hc, hid⟩, _⟩ := h
        rw [List.mem_singleton] at hc
        rw [← hid, hc]
      · intro hid
        refine ⟨⟨_, List.mem_singleton_self _, hid.symm⟩, fun ch hch _ f hb => ?_⟩
        rw [List.mem_singleton] at hch
        subst hch
        obtain ⟨_, m, ⟨top, htop, _⟩, _⟩ := hb
        exact List.not_mem_nil htop
    rw [hset, Set.ncard_singleton]
    decide

end BundleGraph
