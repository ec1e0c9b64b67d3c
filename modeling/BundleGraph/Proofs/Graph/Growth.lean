import BundleGraph.Proofs.Graph.Contents
import BundleGraph.Proofs.Graph.Nodes

/-! # Chunks that are added

    Chunks that are added at the end take nothing away: the graph keeps its
    nodes with their data, and whatever was linked stays linked
    (`buildGraph_append`).

    The first module of a name counts, so a longer list has a registry that
    extends the old one (`Registry.Extends`, `extends_append`), and every chain
    of wrappers stays a chain in it (`Extends.chain`). A name that only a wrapper
    had is the one thing that could change its meaning: as the name of a real
    module that is added, it would stand for that module from then on, and
    reasons that name it would no longer be followed through the wrapper.
-/

namespace BundleGraph

open BundleGraph.Graph

/-! ### Registries that grow -/

namespace Registry

/-- `r.Extends r'`: what stands under a name in the first registry does so in the second one, and
    the names that only a wrapper has stay so. -/
structure Extends (r r' : Registry) : Prop where
  /-- The real modules stay. -/
  modules : ∀ {f m}, r.modules.lookup? f = some m → r'.modules.lookup? f = some m
  /-- The wrappers stay. -/
  wrappers : ∀ {f w}, r.wrappers.lookup? f = some w → r'.wrappers.lookup? f = some w
  /-- No name of a wrapper only becomes that of a real module. -/
  isWrapper : ∀ {f}, r.isWrapper f = true → r'.isWrapper f = true

namespace Extends

variable {r r' : Registry} (h : r.Extends r')
include h

theorem contains {f : String} (real : r.contains f = true) : r'.contains f = true := by
  obtain ⟨m, hm⟩ := OrderedMap.exists_lookup?_of_mem_keys (contains_iff.1 real)
  exact contains_iff.2 (OrderedMap.mem_keys_of_lookup? (h.modules hm))

/-- A wrapper that was registered is brought in by the same names. -/
theorem mem_inbound {s x : String} (hs : s ∈ r.inbound x) : s ∈ r'.inbound x := by
  obtain ⟨w, hw⟩ := OrderedMap.exists_lookup?_of_mem_keys (mem_keys_of_mem_inbound hs)
  rw [inbound, hw] at hs
  rw [inbound, h.wrappers hw]
  exact hs

/-- No chain is cut. -/
theorem chain {s x : String} (hc : r.Chain s x) : r'.Chain s x := by
  induction hc with
  | direct real hs => exact .direct (h.contains real) (h.mem_inbound hs)
  | through only hv _ ih => exact .through (h.isWrapper only) (h.mem_inbound hv) ih

theorem mem_importers {s x : String} (hs : s ∈ r.importers x) : s ∈ r'.importers x :=
  mem_importers_iff.2 (h.chain (mem_importers_iff.1 hs))

/-- A reason stands for at least the same real modules. -/
theorem mem_sourcesOf {reason : Reason} {s : String} (hs : s ∈ r.sourcesOf reason) :
    s ∈ r'.sourcesOf reason := by
  rw [mem_sourcesOf_iff] at hs ⊢
  obtain ⟨o, ho, hroute⟩ := hs
  refine ⟨o, ho, ?_⟩
  rcases hroute with ⟨real, hso⟩ | ⟨only, himp⟩
  · exact Or.inl ⟨h.contains real, hso⟩
  · exact Or.inr ⟨h.isWrapper only, h.mem_importers himp⟩

theorem mem_ends_importLinks (hs : r.Sound) (hs' : r'.Sound) {k : String × String}
    (hk : k ∈ r.importLinks.map GraphLink.ends) : k ∈ r'.importLinks.map GraphLink.ends := by
  obtain ⟨s, t⟩ := k
  obtain ⟨m, hm, hne, reason, hr, hsource⟩ := (mem_ends_importLinks_iff hs).1 hk
  exact (mem_ends_importLinks_iff hs').2
    ⟨m, h.modules hm, hne, reason, hr, h.mem_sourcesOf hsource⟩

end Extends

/-! ### The registry of a longer list -/

theorem carried_append (xs ys : List Chunk) : carried (xs ++ ys) = carried xs ++ carried ys := by
  rw [carried, List.filter_append, List.flatMap_append, carried, carried]

theorem named_append (ms ms' : List Module) : named (ms ++ ms') = named ms ++ named ms' := by
  rw [named, List.filter_append, List.map_append, named, named]

/-- A real module is looked for in the first chunks, and only then in those that were added. -/
theorem lookup?_modules_append (xs ys : List Chunk) (f : String) :
    (build (xs ++ ys)).modules.lookup? f =
      ((build xs).modules.lookup? f).or ((build ys).modules.lookup? f) := by
  simp only [build, OrderedMap.lookup?_ofListFirst, carried_append, List.filter_append,
    named_append, OrderedMap.find_append]

theorem lookup?_wrappers_append (xs ys : List Chunk) (f : String) :
    (build (xs ++ ys)).wrappers.lookup? f =
      ((build xs).wrappers.lookup? f).or ((build ys).wrappers.lookup? f) := by
  simp only [build, OrderedMap.lookup?_ofListFirst, carried_append, List.filter_append,
    named_append, OrderedMap.find_append]

theorem contains_append (xs ys : List Chunk) (f : String) :
    (build (xs ++ ys)).contains f = ((build xs).contains f || (build ys).contains f) := by
  simp only [contains, OrderedMap.contains, lookup?_modules_append, Option.isSome_or]

theorem extends_append {xs ys : List Chunk}
    (apart : ∀ f, (build xs).isWrapper f = true → (build ys).contains f = false) :
    (build xs).Extends (build (xs ++ ys)) where
  modules := by
    intro f m hm
    rw [lookup?_modules_append, hm, Option.some_or]
  wrappers := by
    intro f w hw
    rw [lookup?_wrappers_append, hw, Option.some_or]
  isWrapper := by
    intro f only
    -- the only place where the names of the added chunks matter
    obtain ⟨unreal, hw⟩ := isWrapper_iff.1 only
    obtain ⟨w, hw⟩ := OrderedMap.exists_lookup?_of_mem_keys hw
    refine isWrapper_iff.2 ⟨?_, ?_⟩
    · rw [← contains_iff, contains_append, apart f only, Bool.or_false, contains_iff]
      exact unreal
    · refine OrderedMap.mem_keys_of_lookup? (a := w) ?_
      rw [lookup?_wrappers_append, hw, Option.some_or]

end Registry

/-! ### The graph of a longer list -/

theorem mem_keys_containment_append {xs : List Chunk} (ys : List Chunk) {k : String × String}
    (hk : k ∈ (containment xs).keys) : k ∈ (containment (xs ++ ys)).keys := by
  obtain ⟨c, f⟩ := k
  obtain ⟨hne, ch, hch, hid, hb⟩ := mem_keys_containment_iff.1 hk
  exact mem_keys_containment_iff.2 ⟨hne, ch, List.mem_append_left _ hch, hid, hb⟩

/-- The first chunk of an id still stands for it. -/
theorem lookup?_chunkNodes_append {xs : List Chunk} (ys : List Chunk) {id : String}
    {data : NodeData} (h : (chunkNodes xs).lookup? id = some data) :
    (chunkNodes (xs ++ ys)).lookup? id = some data := by
  rw [chunkNodes, OrderedMap.lookup?_ofListFirst] at h ⊢
  rw [List.filter_append, List.map_append, OrderedMap.find_append, h, Option.some_or]

section

variable {xs ys : List Chunk} (apart : ∀ f, (Registry.build xs).isWrapper f = true →
  (Registry.build ys).contains f = false)
include apart

theorem mem_keys_linksOf_append {k : String × String} (hk : k ∈ (linksOf (.build xs) xs).keys) :
    k ∈ (linksOf (.build (xs ++ ys)) (xs ++ ys)).keys := by
  rw [mem_keys_linksOf_iff] at hk ⊢
  rcases hk with hk | hk
  · exact Or.inl (mem_keys_containment_append ys hk)
  · exact Or.inr ((Registry.extends_append apart).mem_ends_importLinks
      (Registry.build_sound xs) (Registry.build_sound (xs ++ ys)) hk)

/-- Every node keeps its record: the chunks are still the first of their ids, and the registry still
    has the first module of each name. -/
theorem lookup?_nodesOf_append (free : ∀ id, ¬ Collides xs id)
    (free' : ∀ id, ¬ Collides (xs ++ ys) id) {id : String} {data : NodeData}
    (h : (nodesOf (.build xs) xs).lookup? id = some data) :
    (nodesOf (.build (xs ++ ys)) (xs ++ ys)).lookup? id = some data := by
  rw [← OrderedMap.mem_entries_iff, entries_nodesOf free, List.mem_append] at h
  rw [← OrderedMap.mem_entries_iff, entries_nodesOf free', List.mem_append]
  -- without collisions the nodes are those of chunks and those of modules, each by itself
  rcases h with h | h
  · left
    rw [OrderedMap.mem_entries_iff] at h ⊢
    exact lookup?_chunkNodes_append ys h
  · right
    obtain ⟨⟨f, m⟩, hfm, hpair⟩ := List.mem_map.1 h
    rw [OrderedMap.mem_entries_iff] at hfm
    refine List.mem_map.2 ⟨(f, m), ?_, hpair⟩
    rw [OrderedMap.mem_entries_iff]
    exact (Registry.extends_append apart).modules hfm

/-- A link stays what it was: one to a content, or an import. -/
theorem exists_lookup?_linksOf_append (free : ∀ id, ¬ Collides xs id)
    (free' : ∀ id, ¬ Collides (xs ++ ys) id) {k : String × String} {reason : Option Reason}
    (h : (linksOf (.build xs) xs).lookup? k = some reason) :
    ∃ reason', (linksOf (.build (xs ++ ys)) (xs ++ ys)).lookup? k = some reason' ∧
      reason'.isSome = reason.isSome := by
  cases reason with
  | none =>
    have hcontent := mem_keys_containment_append ys ((lookup?_linksOf_eq_none_iff free).1 h)
    exact ⟨none, lookup?_linksOf_of_containment free' hcontent, rfl⟩
  | some q =>
    have himport := (exists_lookup?_linksOf_iff free).1 ⟨q, h⟩
    have himport' := (Registry.extends_append apart).mem_ends_importLinks (Registry.build_sound xs)
      (Registry.build_sound (xs ++ ys)) himport
    obtain ⟨q', hq'⟩ := (exists_lookup?_linksOf_iff free').2 himport'
    exact ⟨some q', hq', rfl⟩

/-- **Adding chunks removes nothing.** If no name of a wrapper only is that of a real module that
    the added chunks carry, and both lists can be built, then every node of the first graph is one
    of the second graph, of the same kind, with the same record and with at least the same
    dependencies, and every pair that is linked in the first graph is linked in the second one, as
    an import in both or in neither. -/
theorem buildGraph_append {d d' : GraphData} (hd : buildGraph xs = .ok d)
    (hd' : buildGraph (xs ++ ys) = .ok d') :
    (∀ n ∈ d.nodes, ∃ n' ∈ d'.nodes, n'.id = n.id ∧ n'.kind = n.kind ∧ n'.data = n.data ∧
      n.dependencies ⊆ n'.dependencies) ∧
    ∀ l ∈ d.links, ∃ l' ∈ d'.links, l'.source = l.source ∧ l'.target = l.target ∧
      l'.reason.isSome = l.reason.isSome := by
  obtain ⟨free, g, rfl, hn, hl⟩ := exists_store_of_buildGraph hd
  obtain ⟨free', g', rfl, hn', hl'⟩ := exists_store_of_buildGraph hd'
  constructor
  · intro n hmem
    obtain ⟨hdata, hkind, hdeps⟩ := Store.mem_nodes_toGraphData_iff.1 hmem
    rw [hn] at hdata
    have hkept : g'.nodes.lookup? n.id = some n.data := by
      rw [hn']
      exact lookup?_nodesOf_append apart free free' hdata
    refine ⟨⟨n.id, n.kind, n.data, g'.targets n.id⟩,
      Store.mem_nodes_toGraphData_iff.2 ⟨hkept, hkind, rfl⟩, rfl, rfl, rfl, ?_⟩
    rw [hdeps]
    intro t ht
    rw [Store.mem_targets_iff, hl] at ht
    rw [Store.mem_targets_iff, hl']
    exact mem_keys_linksOf_append apart ht
  · intro l hmem
    have hlookup := Store.mem_linkList_iff.1 hmem
    rw [hl] at hlookup
    obtain ⟨reason, hreason, hsame⟩ := exists_lookup?_linksOf_append apart free free' hlookup
    refine ⟨⟨l.source, l.target, reason⟩, Store.mem_linkList_iff.2 ?_, rfl, rfl, hsame⟩
    rw [hl']
    exact hreason

end

/-- A chunk with a wrapper that `t.js` names. `t.js` also names a module that is not there. -/
def earlierChunks : List Chunk :=
  [⟨"main", .sync, .zero,
    [.bare .normal "a.js" [] [],
      .bare .concatenated "w.js" [.bare .normal "b.js" [] []] ["a.js"],
      .bare .normal "t.js" [] ["w.js", "late.js"]]⟩]

/-- A chunk that brings the missing module, and another record of `a.js`. -/
def laterChunks : List Chunk :=
  [⟨"side", .lazy, .zero,
    [.bare .normal "late.js" [] ["t.js"], .bare .normal "a.js" [] ["late.js"]]⟩]

theorem not_collides_of_apart {chunks : List Chunk}
    (apart : ∀ c ∈ chunks, (Registry.build chunks).contains c.id = false) (id : String) :
    ¬ Collides chunks id := by
  intro h
  obtain ⟨⟨c, hc, _, hid⟩, hb⟩ := h
  rw [← Registry.contains_build_iff, ← hid, apart c hc] at hb
  cases hb

/-- The later chunk carries no real module that is called like the wrapper. -/
theorem apart_laterChunks : ∀ f, (Registry.build earlierChunks).isWrapper f = true →
    (Registry.build laterChunks).contains f = false := by
  intro f only
  have hkeys : (Registry.build earlierChunks).wrappers.keys = ["w.js"] := by cbv
  have hf := (Registry.isWrapper_iff.1 only).2
  rw [hkeys, List.mem_singleton] at hf
  rw [hf]
  cbv

/-- `t.js` names the wrapper, and `a.js` brings this in. -/
theorem linked_earlierChunks :
    ("a.js", "t.js") ∈ (linksOf (.build earlierChunks) earlierChunks).keys := by
  refine mem_keys_linksOf_iff.2 (Or.inr
    ((mem_ends_importLinks_iff (Registry.build_sound earlierChunks)).2
      ⟨.bare .normal "t.js" [] ["w.js", "late.js"], by cbv, by decide,
        ⟨some "w.js", "", none⟩, List.mem_cons_self, ?_⟩))
  have hsources : (Registry.build earlierChunks).sourcesOf ⟨some "w.js", "", none⟩ = ["a.js"] := by
    cbv
  rw [hsources, List.mem_singleton]

/-- So `a.js` is linked to `t.js`, and stays so with the later chunk. -/
theorem buildGraph_append_laterChunks :
    ∃ d d', buildGraph earlierChunks = .ok d ∧ buildGraph (earlierChunks ++ laterChunks) = .ok d' ∧
      (∃ l ∈ d.links, l.source = "a.js" ∧ l.target = "t.js") ∧
      (∃ l ∈ d'.links, l.source = "a.js" ∧ l.target = "t.js") ∧
      ∀ n ∈ d.nodes, ∃ n' ∈ d'.nodes, n'.id = n.id ∧ n'.data = n.data := by
  have hids : ∀ c ∈ earlierChunks, (Registry.build earlierChunks).contains c.id = false := by
    simp only [earlierChunks, List.forall_mem_singleton]
    cbv
  have hids' : ∀ c ∈ earlierChunks ++ laterChunks,
      (Registry.build (earlierChunks ++ laterChunks)).contains c.id = false := by
    simp only [earlierChunks, laterChunks, List.forall_mem_append, List.forall_mem_singleton]
    constructor <;> cbv
  obtain ⟨d, hd⟩ := exists_buildGraph (not_collides_of_apart hids)
  obtain ⟨d', hd'⟩ := exists_buildGraph (not_collides_of_apart hids')
  obtain ⟨hnodes, hlinks⟩ := buildGraph_append apart_laterChunks hd hd'
  have linked : ∃ l ∈ d.links, l.source = "a.js" ∧ l.target = "t.js" := by
    obtain ⟨_, g, rfl, _, hl⟩ := exists_store_of_buildGraph hd
    obtain ⟨reason, hreason⟩ := OrderedMap.exists_lookup?_of_mem_keys linked_earlierChunks
    rw [← hl] at hreason
    exact ⟨⟨"a.js", "t.js", reason⟩, Store.mem_linkList_iff.2 hreason, rfl, rfl⟩
  refine ⟨d, d', hd, hd', linked, ?_, fun n hn => ?_⟩
  · obtain ⟨l, hl, hsource, htarget⟩ := linked
    obtain ⟨l', hl', hs, ht, _⟩ := hlinks l hl
    exact ⟨l', hl', hs.trans hsource, ht.trans htarget⟩
  · obtain ⟨n', hn', hid, _, hdata, _⟩ := hnodes n hn
    exact ⟨n', hn', hid, hdata⟩

/-- A real module that is called like the wrapper takes its place, and `a.js` is no longer linked
    to `t.js`. -/
example : (buildGraph (earlierChunks ++ [⟨"side", .lazy, .zero, [.bare .normal "w.js" [] []]⟩])).map
    (fun d => d.links.map GraphLink.ends) = .ok [("main", "a.js"), ("main", "b.js"),
      ("main", "t.js"), ("side", "w.js"), ("w.js", "t.js")] := by
  cbv

end BundleGraph
