import BundleGraph.Proofs.Graph.Calls
import BundleGraph.Proofs.Graph.Nodes

/-! # Building with the registry of other chunks

    A build can be given the registry of chunks that are not its own. Then the
    record of a module may come from elsewhere, an end of an import may be no
    node, and one name may be that of a chunk here and of a real module there.

    Such a build breaks a rule or leaves a graph that is well formed
    (`buildGraphWith_wellFormed`). A link without a reason still leads from a
    chunk to a module. A link with a reason joins names of real modules of the
    registry, and where a chunk has such a name, the link is at the chunk
    (`kinds_of_linked_nodes`).
-/

namespace BundleGraph

open BundleGraph.Graph

/-! ### Well-formed graphs -/

/-- A graph of which ids, records, links and dependencies fit each other. -/
structure GraphData.WellFormed (d : GraphData) : Prop where
  /-- No id stands for two nodes. -/
  distinct : (d.nodes.map GraphNode.id).Nodup
  /-- A chunk node has the record of a chunk with its id. -/
  chunkRecord : ∀ n ∈ d.nodes, n.kind = .chunk → ∃ c, n.data = .chunk c ∧ c.id = n.id
  /-- A module node has the record of a real module with its name. -/
  moduleRecord : ∀ n ∈ d.nodes, n.kind = .module →
    ∃ m, n.data = .module m ∧ m.fileName = n.id ∧ m.kind ≠ .concatenated
  /-- Both ends of a link are nodes. -/
  closed : ∀ l ∈ d.links, (∃ n ∈ d.nodes, n.id = l.source) ∧ ∃ n ∈ d.nodes, n.id = l.target
  /-- No ordered pair is linked twice. -/
  simple : (d.links.map fun l => (l.source, l.target)).Nodup
  /-- No node is linked to itself. -/
  loopless : ∀ l ∈ d.links, l.source ≠ l.target
  /-- A node depends on the targets of its links, in their order. -/
  dependencies_eq : ∀ n ∈ d.nodes,
    n.dependencies = (d.links.filter fun l => l.source = n.id).map GraphLink.target

/-- `data.IsUnder id`: the record may stand under the id, since it names itself so. -/
def NodeData.IsUnder (id : String) : NodeData → Prop
  | chunk c => c.id = id
  | module m => m.fileName = id ∧ m.kind ≠ .concatenated

namespace Graph.Store

/-- A store keeps ids apart, links nodes only, and links no pair twice. So its graph is well formed
    if the records stand under their own names and no node is linked to itself. -/
theorem wellFormed_toGraphData {g : Store}
    (records : ∀ id data, g.nodes.lookup? id = some data → data.IsUnder id)
    (loopless : ∀ k ∈ g.links.keys, k.1 ≠ k.2) : g.toGraphData.WellFormed where
  distinct := by
    rw [map_id_toGraphData]
    exact g.nodes.nodup_keys
  chunkRecord := by
    intro n hn hchunk
    obtain ⟨hlookup, hkind, _⟩ := mem_nodes_toGraphData_iff.1 hn
    have hunder := records n.id n.data hlookup
    rw [hkind] at hchunk
    cases hdata : n.data with
    | chunk c =>
      rw [hdata] at hunder
      exact ⟨c, rfl, hunder⟩
    | module m =>
      rw [hdata] at hchunk
      cases hchunk
  moduleRecord := by
    intro n hn hmodule
    obtain ⟨hlookup, hkind, _⟩ := mem_nodes_toGraphData_iff.1 hn
    have hunder := records n.id n.data hlookup
    rw [hkind] at hmodule
    cases hdata : n.data with
    | chunk c =>
      rw [hdata] at hmodule
      cases hmodule
    | module m =>
      rw [hdata] at hunder
      exact ⟨m, rfl, hunder⟩
  closed := by
    intro l hl
    have hends := g.closed l.ends (OrderedMap.mem_keys_of_lookup? (mem_linkList_iff.1 hl))
    exact ⟨exists_node_iff.2 hends.1, exists_node_iff.2 hends.2⟩
  simple := by
    have hpairs : (g.toGraphData.links.map fun l => (l.source, l.target)) = g.links.keys := by
      show g.linkList.map _ = _
      rw [linkList, List.map_map]
      rfl
    rw [hpairs]
    exact g.links.nodup_keys
  loopless := by
    intro l hl
    exact loopless l.ends (OrderedMap.mem_keys_of_lookup? (mem_linkList_iff.1 hl))
  dependencies_eq := by
    intro n hn
    rw [(mem_nodes_toGraphData_iff.1 hn).2.2]
    exact g.targets_eq n.id

end Graph.Store

/-! ### What a build leaves -/

/-- A build with a sound registry fails on a collision, or else on an import that lacks an end, and
    goes through otherwise. -/
theorem Resolver.build_outcomes (r : Resolver) (hs : r.registry.Sound) (chunks : List Chunk) :
    (∃ id, Collides chunks id ∧ (r.build chunks).1 = .error (.kindClash id .chunk .module)) ∨
    ((∀ id, ¬ Collides chunks id) ∧
      ∃ l ∈ r.registry.importLinks, ¬ (Provides chunks l.source ∧ Provides chunks l.target) ∧
        ∃ missing, (r.build chunks).1 = .error (.missingEnds l.source l.target missing)) ∨
    ((∀ id, ¬ Collides chunks id) ∧
      (∀ l ∈ r.registry.importLinks, Provides chunks l.source ∧ Provides chunks l.target) ∧
      ∃ g, (r.build chunks).1 = .ok g ∧ g.nodes = nodesOf r.registry chunks ∧
        g.links = linksOf r.registry chunks) := by
  rcases r.build_cases hs chunks with hcollides | ⟨free, g, hn, hl, hbuild⟩
  · exact Or.inl hcollides
  · have hprovides : ∀ id, id ∈ g.nodes.keys ↔ Provides chunks id := by
      intro id
      rw [hn]
      exact mem_keys_nodesOf_iff
    right
    by_cases ends : ∀ l ∈ r.registry.importLinks,
        l.source ∈ g.nodes.keys ∧ l.target ∈ g.nodes.keys
    · obtain ⟨g', hg', hn', hl'⟩ := Store.exists_foldlM_addLink ends
      refine Or.inr ⟨free, ?_, g', hbuild.trans hg', hn'.trans hn, ?_⟩
      · intro l hl
        rw [← hprovides, ← hprovides]
        exact ends l hl
      · rw [hl', hl]
        rfl
    · obtain ⟨l, hlink, hlacks, herr⟩ := Store.exists_foldlM_addLink_error ends
      rw [hprovides, hprovides] at hlacks
      exact Or.inl ⟨free, l, hlink, hlacks, _, hbuild.trans herr⟩

/-- A graph that was built with a sound registry comes from a store with the nodes and the links
    that the chunks and the registry ask for. -/
theorem exists_store_of_buildGraphWith {r : Registry} (hs : r.Sound) {chunks : List Chunk}
    {d : GraphData} (h : buildGraphWith r chunks = .ok d) :
    (∀ id, ¬ Collides chunks id) ∧
      ∃ g : Store, d = g.toGraphData ∧ g.nodes = nodesOf r chunks ∧ g.links = linksOf r chunks := by
  rw [buildGraphWith] at h
  rcases (Resolver.ofRegistry r).build_outcomes hs chunks with
    ⟨_, _, herr⟩ | ⟨_, _, _, _, _, herr⟩ | ⟨free, _, g, hg, hn, hl⟩
  · rw [herr] at h
    cases h
  · rw [herr] at h
    cases h
  · rw [hg] at h
    cases h
    exact ⟨free, g, rfl, hn, hl⟩

/-- Every record stands under its own name, wherever it comes from. -/
theorem Registry.Sound.isUnder_of_lookup?_nodesOf {r : Registry} (hs : r.Sound)
    {chunks : List Chunk} {id : String} {data : NodeData}
    (h : (nodesOf r chunks).lookup? id = some data) : data.IsUnder id := by
  rw [nodesOf, OrderedMap.lookup?_insertAllNew, Option.or_eq_some_iff] at h
  rcases h with h | ⟨_, h⟩
  · rw [chunkNodes, OrderedMap.lookup?_ofListFirst] at h
    obtain ⟨c, _, he⟩ := List.mem_map.1 (OrderedMap.mem_of_find_eq_some h)
    cases he
    rfl
  · obtain ⟨p, hp, he⟩ := List.mem_map.1 (OrderedMap.mem_of_find_eq_some h)
    have real := (Chunk.mem_contents_iff.1 (mem_contentsOf_iff.1 hp).2).2.1
    cases he
    exact hs.represent_spec real

/-- No node is linked to itself: a chunk would have to bundle a module of its own name, and the
    imports of a module from itself are left out. -/
theorem Registry.Sound.ne_of_mem_linksOf {r : Registry} (hs : r.Sound) {chunks : List Chunk}
    (free : ∀ id, ¬ Collides chunks id) {k : String × String} (hk : k ∈ (linksOf r chunks).keys) :
    k.1 ≠ k.2 := by
  obtain ⟨s, t⟩ := k
  rcases mem_keys_linksOf_iff.1 hk with hk | hk
  · obtain ⟨hne, c, hc, hid, hb⟩ := mem_keys_containment_iff.1 hk
    intro hsame
    have hsame : s = t := hsame
    subst hsame
    subst hid
    exact free c.id ⟨⟨c, hc, hne, rfl⟩, c, hc, hne, hb⟩
  · obtain ⟨_, _, hne, _⟩ := (mem_ends_importLinks_iff hs).1 hk
    exact hne

/-- **Well-formed whatever the registry.** A build with the registry of any chunks fails if a chunk
    has the name of a real module that the chunks carry, or if an import of the registry has an end
    that the chunks do not provide. Otherwise its graph is well formed. -/
theorem buildGraphWith_wellFormed (registryChunks chunks : List Chunk) :
    (∃ v, buildGraphWith (.build registryChunks) chunks = .error v ∧
      ((∃ id, Collides chunks id) ∨ ∃ l ∈ (Registry.build registryChunks).importLinks,
        ¬ (Provides chunks l.source ∧ Provides chunks l.target))) ∨
    ∃ d, buildGraphWith (.build registryChunks) chunks = .ok d ∧ d.WellFormed ∧
      (∀ id, ¬ Collides chunks id) ∧ ∀ l ∈ (Registry.build registryChunks).importLinks,
        Provides chunks l.source ∧ Provides chunks l.target := by
  have hs := Registry.build_sound registryChunks
  rw [buildGraphWith]
  rcases (Resolver.ofRegistry (.build registryChunks)).build_outcomes hs chunks with
    ⟨id, hid, herr⟩ | ⟨_, l, hl, hlacks, _, herr⟩ | ⟨free, ends, g, hg, hn, hl⟩
  · exact Or.inl ⟨_, by rw [herr]; rfl, Or.inl ⟨id, hid⟩⟩
  · exact Or.inl ⟨_, by rw [herr]; rfl, Or.inr ⟨l, hl, hlacks⟩⟩
  · refine Or.inr ⟨g.toGraphData, by rw [hg]; rfl, ?_, free, ends⟩
    apply Store.wellFormed_toGraphData
    · intro id data hdata
      rw [hn] at hdata
      exact hs.isUnder_of_lookup?_nodesOf hdata
    · intro k hk
      rw [hl] at hk
      exact hs.ne_of_mem_linksOf free hk

/-! ### Kinds of linked nodes -/

/-- A graph whose imports join modules and whose other links lead from chunks to modules. -/
structure GraphData.Separated (d : GraphData) : Prop where
  /-- A link from a chunk has no reason. -/
  fromChunk : ∀ l ∈ d.links, d.HasNode l.source .chunk → l.reason = none
  /-- A link with a reason joins two modules. -/
  withReason : ∀ l ∈ d.links, l.reason.isSome = true →
    d.HasNode l.source .module ∧ d.HasNode l.target .module
  /-- No link leads to a chunk. -/
  toModule : ∀ l ∈ d.links, ¬ d.HasNode l.target .chunk

section kinds

variable {r : Registry} {chunks : List Chunk} {g : Store}

theorem lookup?_linksOf_of_link (hlinks : g.links = linksOf r chunks) {l : GraphLink}
    (hl : l ∈ g.toGraphData.links) : (linksOf r chunks).lookup? l.ends = some l.reason := by
  rw [← hlinks]
  exact Store.mem_linkList_iff.1 hl

/-- A link without a reason leads from a chunk to a module. -/
theorem kinds_of_content (hn : g.nodes = nodesOf r chunks) (hlinks : g.links = linksOf r chunks)
    (free : ∀ id, ¬ Collides chunks id) {l : GraphLink} (hl : l ∈ g.toGraphData.links)
    (hnone : l.reason = none) :
    g.toGraphData.HasNode l.source .chunk ∧ g.toGraphData.HasNode l.target .module := by
  have hlookup := lookup?_linksOf_of_link hlinks hl
  rw [hnone] at hlookup
  obtain ⟨hne, c, hc, hid, hb⟩ := mem_keys_containment_iff.1 (lookup?_linksOf_none_iff.1 hlookup).1
  rw [← hid] at hne
  exact ⟨(hasNode_chunk_iff hn).2 ⟨c, hc, hne, hid⟩,
    (hasNode_module_iff hn free).2 ⟨c, hc, hne, hb⟩⟩

/-- If no import has an end that is the name of a chunk, then no chunk is at either end of a link
    with a reason. -/
theorem separated_of_apart (hn : g.nodes = nodesOf r chunks) (hlinks : g.links = linksOf r chunks)
    (free : ∀ id, ¬ Collides chunks id)
    (apart : ∀ l ∈ r.importLinks, ∀ c ∈ chunks, c.id ≠ "" → c.id ≠ l.source ∧ c.id ≠ l.target) :
    g.toGraphData.Separated := by
  have noChunk : ∀ {s t q}, ⟨s, t, some q⟩ ∈ g.toGraphData.links →
      ¬ g.toGraphData.HasNode s .chunk ∧ ¬ g.toGraphData.HasNode t .chunk := by
    intro s t q hl
    obtain ⟨l, himp, hends⟩ := List.mem_map.1 ((exists_link_with_reason_iff hlinks).1 ⟨q, hl⟩)
    cases hends
    rw [hasNode_chunk_iff hn, hasNode_chunk_iff hn]
    constructor
    · intro h
      obtain ⟨c, hc, hne, hid⟩ := h
      exact (apart l himp c hc hne).1 hid
    · intro h
      obtain ⟨c, hc, hne, hid⟩ := h
      exact (apart l himp c hc hne).2 hid
  have module : ∀ id, id ∈ g.nodes.keys → ¬ g.toGraphData.HasNode id .chunk →
      g.toGraphData.HasNode id .module := by
    intro id hid hno
    rw [hn, mem_keys_nodesOf_iff, ← hasNode_chunk_iff hn] at hid
    exact (hasNode_module_iff hn free).2 (hid.resolve_left hno)
  constructor
  · intro l hl hchunk
    obtain ⟨s, t, _ | q⟩ := l
    · rfl
    · exact absurd hchunk (noChunk hl).1
  · intro l hl hsome
    have hends := g.closed l.ends (OrderedMap.mem_keys_of_lookup? (Store.mem_linkList_iff.1 hl))
    obtain ⟨s, t, _ | q⟩ := l
    · cases hsome
    · exact ⟨module s hends.1 (noChunk hl).1, module t hends.2 (noChunk hl).2⟩
  · intro l hl hchunk
    obtain ⟨s, t, _ | q⟩ := l
    · -- a chunk that carries a module of the name of a chunk is a collision
      have hmodule := (kinds_of_content hn hlinks free hl rfl).2
      exact free t ⟨(hasNode_chunk_iff hn).1 hchunk, (hasNode_module_iff hn free).1 hmodule⟩
    · exact (noChunk hl).2 hchunk

/-- An import at a chunk is a link with a reason there. -/
theorem apart_of_separated (hn : g.nodes = nodesOf r chunks) (hlinks : g.links = linksOf r chunks)
    (hsep : g.toGraphData.Separated) {l : GraphLink} (hl : l ∈ r.importLinks) {c : Chunk}
    (hc : c ∈ chunks) (hne : c.id ≠ "") : c.id ≠ l.source ∧ c.id ≠ l.target := by
  obtain ⟨q, hlink⟩ := (exists_link_with_reason_iff hlinks).2 (List.mem_map.2 ⟨l, hl, rfl⟩)
  constructor
  · intro hsame
    cases hsep.fromChunk _ hlink ((hasNode_chunk_iff hn).2 ⟨c, hc, hne, hsame⟩)
  · intro hsame
    exact hsep.toModule _ hlink ((hasNode_chunk_iff hn).2 ⟨c, hc, hne, hsame⟩)

end kinds

/-- **Kinds of linked nodes.** With the registry of any chunks, a link without a reason leads from a
    chunk to a module, and a link with a reason joins names of real modules of the registry. So
    containment and imports stay apart exactly if no chunk has the name of an end of an import: the
    store asks whether both ends are nodes, and not of which kind they are. -/
theorem kinds_of_linked_nodes {registryChunks chunks : List Chunk} {d : GraphData}
    (h : buildGraphWith (.build registryChunks) chunks = .ok d) :
    (∀ l ∈ d.links, l.reason = none →
      d.HasNode l.source .chunk ∧ d.HasNode l.target .module) ∧
    (∀ l ∈ d.links, l.reason.isSome = true →
      (Registry.build registryChunks).contains l.source = true ∧
        (Registry.build registryChunks).contains l.target = true) ∧
    (d.Separated ↔ ∀ l ∈ (Registry.build registryChunks).importLinks, ∀ c ∈ chunks, c.id ≠ "" →
      c.id ≠ l.source ∧ c.id ≠ l.target) := by
  have hs := Registry.build_sound registryChunks
  obtain ⟨free, g, rfl, hn, hlinks⟩ := exists_store_of_buildGraphWith hs h
  refine ⟨fun l hl hnone => kinds_of_content hn hlinks free hl hnone, ?_, ?_⟩
  · intro l hl hsome
    obtain ⟨s, t, _ | q⟩ := l
    · cases hsome
    · obtain ⟨l, himp, hends⟩ := List.mem_map.1 ((exists_link_with_reason_iff hlinks).1 ⟨q, hl⟩)
      cases hends
      exact hs.ends_of_mem_importLinks (l := l) himp
  · constructor
    · intro hsep l hl c hc hne
      exact apart_of_separated hn hlinks hsep hl hc hne
    · exact separated_of_apart hn hlinks free

/-- A chunk with one module. -/
def shownChunks : List Chunk := [⟨"main", .sync, .zero, [.bare .normal "a.js" [] []]⟩]

/-- A chunk in which that module is pulled in by a real module with the name of the other chunk. -/
def lentChunks : List Chunk :=
  [⟨"other", .sync, .zero, [.bare .normal "main" [] [], .bare .normal "a.js" [] ["main"]]⟩]

/-- With the registry of the second chunk the link from the first one to its module is taken for an
    import: it gets a reason, although a chunk is its source. -/
theorem reason_from_shownChunks :
    ∃ d, buildGraphWith (.build lentChunks) shownChunks = .ok d ∧
      d.links = [⟨"main", "a.js", some ⟨some "main", "", none⟩⟩] ∧ ¬ d.Separated := by
  have hbuild : buildGraphWith (.build lentChunks) shownChunks = .ok
      ⟨[⟨"main", .chunk, .chunk ⟨"main", .sync, .zero, [.bare .normal "a.js" [] []]⟩, ["a.js"]⟩,
        ⟨"a.js", .module, .module (.bare .normal "a.js" [] ["main"]), []⟩],
      [⟨"main", "a.js", some ⟨some "main", "", none⟩⟩]⟩ := by cbv
  have himports : (Registry.build lentChunks).importLinks =
      [⟨"main", "a.js", some ⟨some "main", "", none⟩⟩] := by cbv
  refine ⟨_, hbuild, rfl, ?_⟩
  rw [(kinds_of_linked_nodes hbuild).2.2, himports]
  intro apart
  exact (apart _ (List.mem_singleton_self _) _ (List.mem_singleton_self _) (by decide)).1 rfl

end BundleGraph
