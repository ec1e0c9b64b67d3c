import BundleGraph.Proofs.Graph.Contents
import BundleGraph.Proofs.Graph.LastReason
import BundleGraph.Proofs.Graph.Nodes

/-! # The order of chunks and modules

    A build takes the first record of a name and the last reason of a link, and
    it searches breadth first. If a name stands for one record only, none of
    this depends on the order in which chunks list their modules, or in which
    they are listed themselves (`buildGraph_reordered`).

    Reordered chunks have registries that agree on every name
    (`Reordered.agrees`). What a build asks a registry for is then the same, up
    to the order of importers, and this order does not show in a link.
-/

namespace BundleGraph

open BundleGraph.Graph

/-! ### Reordering -/

/-- `c.Shuffles c'`: the same chunk with the modules at its top level in another order. -/
structure Chunk.Shuffles (c c' : Chunk) : Prop where
  /-- The id stays. -/
  id_eq : c'.id = c.id
  /-- The kind stays. -/
  kind_eq : c'.kind = c.kind
  /-- The sizes stay. -/
  sizes_eq : c'.sizes = c.sizes
  /-- The modules at the top level come in another order. -/
  modules_perm : c.modules.Perm c'.modules

/-- The same chunks in another order, each with the modules at its top level in another order. -/
def Reordered (chunks chunks' : List Chunk) : Prop :=
  ∃ shuffled, List.Forall₂ Chunk.Shuffles chunks shuffled ∧ shuffled.Perm chunks'

/-- A name stands for one record: of the modules that the chunks with a name carry, two real modules
    with the same name are equal, and so are two wrappers. -/
def Unambiguous (chunks : List Chunk) : Prop :=
  ∀ m ∈ Registry.carried chunks, ∀ m' ∈ Registry.carried chunks,
    m.fileName ≠ "" → m'.fileName = m.fileName → m'.isWrapper = m.isWrapper → m' = m

theorem Chunk.Shuffles.carries_iff {c c' : Chunk} (h : c.Shuffles c') {m : Module} :
    c.Carries m ↔ c'.Carries m := by
  rw [Carries, Carries]
  constructor
  · intro hc
    obtain ⟨top, htop, hm⟩ := hc
    exact ⟨top, h.modules_perm.mem_iff.1 htop, hm⟩
  · intro hc
    obtain ⟨top, htop, hm⟩ := hc
    exact ⟨top, h.modules_perm.mem_iff.2 htop, hm⟩

theorem Chunk.Shuffles.bundles_iff {c c' : Chunk} (h : c.Shuffles c') {f : String} :
    c.Bundles f ↔ c'.Bundles f := by
  simp only [Bundles, h.carries_iff]

namespace Reordered

variable {chunks chunks' : List Chunk} (h : Reordered chunks chunks')
include h

/-- What can be said of some chunk, whatever the order of its modules, can be said of some chunk of
    the other list. -/
theorem exists_iff {p : Chunk → Prop} (hp : ∀ c c', c.Shuffles c' → (p c ↔ p c')) :
    (∃ c ∈ chunks, p c) ↔ ∃ c ∈ chunks', p c := by
  obtain ⟨shuffled, hside, hperm⟩ := h
  rw [exists_mem_iff_of_forall₂ hp hside]
  simp only [hperm.mem_iff]

theorem exists_id_iff {id : String} :
    (∃ c ∈ chunks, c.id ≠ "" ∧ c.id = id) ↔ ∃ c ∈ chunks', c.id ≠ "" ∧ c.id = id := by
  apply h.exists_iff
  intro c c' hc
  rw [hc.id_eq]

theorem exists_bundles_iff {f : String} :
    (∃ c ∈ chunks, c.id ≠ "" ∧ c.Bundles f) ↔ ∃ c ∈ chunks', c.id ≠ "" ∧ c.Bundles f := by
  apply h.exists_iff
  intro c c' hc
  rw [hc.id_eq, hc.bundles_iff]

theorem collides_iff {id : String} : Collides chunks id ↔ Collides chunks' id := by
  rw [Collides, Collides, h.exists_id_iff, h.exists_bundles_iff]

theorem mem_keys_containment_iff {k : String × String} :
    k ∈ (containment chunks).keys ↔ k ∈ (containment chunks').keys := by
  obtain ⟨c, f⟩ := k
  rw [BundleGraph.mem_keys_containment_iff, BundleGraph.mem_keys_containment_iff]
  have hsome : (∃ ch ∈ chunks, ch.id = c ∧ ch.Bundles f) ↔
      ∃ ch ∈ chunks', ch.id = c ∧ ch.Bundles f := by
    apply h.exists_iff
    intro ch ch' hch
    rw [hch.id_eq, hch.bundles_iff]
  rw [hsome]

theorem mem_carried_iff {m : Module} :
    m ∈ Registry.carried chunks ↔ m ∈ Registry.carried chunks' := by
  have hcarried : ∀ cs : List Chunk,
      m ∈ Registry.carried cs ↔ ∃ c ∈ cs, c.id ≠ "" ∧ c.Carries m := by
    intro cs
    simp only [Registry.carried, List.mem_flatMap, List.mem_filter, decide_eq_true_eq,
      Chunk.mem_carried_iff, and_assoc]
  rw [hcarried, hcarried]
  apply h.exists_iff
  intro c c' hc
  rw [hc.id_eq, hc.carries_iff]

theorem unambiguous (hu : Unambiguous chunks) : Unambiguous chunks' := by
  intro m hm m' hm'
  exact hu m (h.mem_carried_iff.2 hm) m' (h.mem_carried_iff.2 hm')

end Reordered

/-! ### Registries that agree -/

namespace Registry

/-- If a name stands for one module of a list, then this is the module that is found. -/
theorem find_named_iff {ms : List Module} {f : String} {m : Module}
    (hu : ∀ m ∈ ms, ∀ m' ∈ ms, m.fileName ≠ "" → m'.fileName = m.fileName → m' = m) :
    OrderedMap.find f (named ms) = some m ↔ m ∈ ms ∧ m.fileName = f ∧ f ≠ "" := by
  constructor
  · exact of_find_named
  · intro h
    obtain ⟨hm, rfl, hne⟩ := h
    have hsome : (OrderedMap.find m.fileName (named ms)).isSome = true := by
      rw [OrderedMap.find_isSome, named, List.map_map]
      exact List.mem_map.2 ⟨m, List.mem_filter.2 ⟨hm, by simpa using hne⟩, rfl⟩
    obtain ⟨m', hm'⟩ := Option.isSome_iff_exists.1 hsome
    obtain ⟨hmem, hname, _⟩ := of_find_named hm'
    rw [hm', hu m hm m' hmem hne hname]

/-- `r.Agrees r'`: under every name stand the same modules. -/
structure Agrees (r r' : Registry) : Prop where
  /-- The real modules are the same. -/
  modules : ∀ f, r'.modules.lookup? f = r.modules.lookup? f
  /-- The wrappers are the same. -/
  wrappers : ∀ f, r'.wrappers.lookup? f = r.wrappers.lookup? f

namespace Agrees

variable {r r' : Registry} (h : r.Agrees r')
include h

theorem symm : r'.Agrees r := ⟨fun f => (h.modules f).symm, fun f => (h.wrappers f).symm⟩

theorem contains_eq (f : String) : r'.contains f = r.contains f := by
  rw [contains, OrderedMap.contains, h.modules]
  rfl

theorem isWrapper_eq (f : String) : r'.isWrapper f = r.isWrapper f := by
  rw [isWrapper, OrderedMap.contains, OrderedMap.contains, h.modules, h.wrappers]
  rfl

theorem inbound_eq (f : String) : r'.inbound f = r.inbound f := by
  rw [inbound, h.wrappers, inbound]

theorem chain {s w : String} (hc : r.Chain s w) : r'.Chain s w := by
  induction hc with
  | direct real hs => exact .direct (by rwa [h.contains_eq]) (by rwa [h.inbound_eq])
  | through only hv _ ih => exact .through (by rwa [h.isWrapper_eq]) (by rwa [h.inbound_eq]) ih

/-- A wrapper has the same importers, though not in the same order. -/
theorem mem_importers_iff {s w : String} : s ∈ r'.importers w ↔ s ∈ r.importers w := by
  rw [Registry.mem_importers_iff, Registry.mem_importers_iff]
  exact ⟨h.symm.chain, h.chain⟩

theorem mem_sourcesOf_iff {reason : Reason} {s : String} :
    s ∈ r'.sourcesOf reason ↔ s ∈ r.sourcesOf reason := by
  simp only [Registry.mem_sourcesOf_iff, h.contains_eq, h.isWrapper_eq, h.mem_importers_iff]

theorem mem_ends_importLinks_iff (hs : r.Sound) (hs' : r'.Sound) {k : String × String} :
    k ∈ r'.importLinks.map GraphLink.ends ↔ k ∈ r.importLinks.map GraphLink.ends := by
  obtain ⟨s, t⟩ := k
  simp only [BundleGraph.mem_ends_importLinks_iff hs, BundleGraph.mem_ends_importLinks_iff hs',
    h.modules, h.mem_sourcesOf_iff]

/-- A link has the same reason: it is found among the reasons of the target, and these are the
    same in the same order. -/
theorem lookup?_linksOf_iff (hs : r.Sound) (hs' : r'.Sound) {chunks chunks' : List Chunk}
    (hcontent : ∀ k, k ∈ (containment chunks).keys ↔ k ∈ (containment chunks').keys)
    {k : String × String} {reason : Option Reason} :
    (linksOf r' chunks').lookup? k = some reason ↔ (linksOf r chunks).lookup? k = some reason := by
  cases reason with
  | none =>
    rw [lookup?_linksOf_none_iff, lookup?_linksOf_none_iff, hcontent,
      h.mem_ends_importLinks_iff hs hs']
  | some q =>
    obtain ⟨s, t⟩ := k
    simp only [hs.lookup?_linksOf_some_iff, hs'.lookup?_linksOf_some_iff, h.modules,
      h.mem_sourcesOf_iff]

end Agrees

end Registry

/-- If a name stands for one record, the modules that pass a test for one of the two indexes are
    found under the same names, whatever the order. -/
theorem Reordered.find_named_iff {chunks chunks' : List Chunk} (h : Reordered chunks chunks')
    (hu : Unambiguous chunks) {p : Module → Bool}
    (hp : ∀ m m', p m = true → p m' = true → m'.isWrapper = m.isWrapper) {f : String} {m : Module} :
    OrderedMap.find f (Registry.named ((Registry.carried chunks').filter p)) = some m ↔
      OrderedMap.find f (Registry.named ((Registry.carried chunks).filter p)) = some m := by
  have one : ∀ {cs : List Chunk}, Unambiguous cs →
      ∀ m ∈ (Registry.carried cs).filter p, ∀ m' ∈ (Registry.carried cs).filter p,
        m.fileName ≠ "" → m'.fileName = m.fileName → m' = m := by
    intro cs hcs m hm m' hm' hne hname
    obtain ⟨hm, hpm⟩ := List.mem_filter.1 hm
    obtain ⟨hm', hpm'⟩ := List.mem_filter.1 hm'
    exact hcs m hm m' hm' hne hname (hp m m' hpm hpm')
  rw [Registry.find_named_iff (one (h.unambiguous hu)), Registry.find_named_iff (one hu),
    List.mem_filter, List.mem_filter, h.mem_carried_iff]

/-- Reordered chunks have registries that agree. -/
theorem Reordered.agrees {chunks chunks' : List Chunk} (h : Reordered chunks chunks')
    (hu : Unambiguous chunks) : (Registry.build chunks).Agrees (Registry.build chunks') := by
  constructor
  · intro f
    rw [Registry.build, Registry.build, OrderedMap.lookup?_ofListFirst,
      OrderedMap.lookup?_ofListFirst]
    refine Option.ext fun m => h.find_named_iff hu ?_
    intro m m' hm hm'
    rw [Bool.not_eq_true'] at hm hm'
    rw [hm, hm']
  · intro f
    rw [Registry.build, Registry.build, OrderedMap.lookup?_ofListFirst,
      OrderedMap.lookup?_ofListFirst]
    refine Option.ext fun m => h.find_named_iff hu ?_
    intro m m' hm hm'
    rw [hm, hm']

/-! ### The finished graph -/

/-- **Order does not matter.** If a name stands for one record, then chunks in another order, with
    the modules at their top level in another order, fail to build if the first ones do. Otherwise
    their graph has the same nodes of the same kinds, the same record for every module, and the same
    links with the same reasons. -/
theorem buildGraph_reordered {chunks chunks' : List Chunk} (h : Reordered chunks chunks')
    (hu : Unambiguous chunks) :
    ((∃ v, buildGraph chunks = .error v) ↔ ∃ v, buildGraph chunks' = .error v) ∧
    ∀ d d', buildGraph chunks = .ok d → buildGraph chunks' = .ok d' →
      (∀ id kind, d.HasNode id kind ↔ d'.HasNode id kind) ∧
      (∀ id m, (∃ n ∈ d.nodes, n.id = id ∧ n.data = .module m) ↔
        ∃ n ∈ d'.nodes, n.id = id ∧ n.data = .module m) ∧
      ∀ l, l ∈ d.links ↔ l ∈ d'.links := by
  constructor
  · rw [exists_buildGraph_error_iff, exists_buildGraph_error_iff]
    exact exists_congr fun id => h.collides_iff
  · intro d d' hd hd'
    obtain ⟨free, g, rfl, hn, hl⟩ := exists_store_of_buildGraph hd
    obtain ⟨free', g', rfl, hn', hl'⟩ := exists_store_of_buildGraph hd'
    have hagree := h.agrees hu
    refine ⟨?_, ?_, ?_⟩
    · intro id kind
      cases kind with
      | chunk => rw [hasNode_chunk_iff hn, hasNode_chunk_iff hn', h.exists_id_iff]
      | module =>
        rw [hasNode_module_iff hn free, hasNode_module_iff hn' free', h.exists_bundles_iff]
    · intro id m
      rw [Store.exists_record_iff, Store.exists_record_iff, hn, hn',
        lookup?_nodesOf_module_iff free, lookup?_nodesOf_module_iff free', hagree.modules]
    · intro l
      show l ∈ g.linkList ↔ l ∈ g'.linkList
      rw [Store.mem_linkList_iff, Store.mem_linkList_iff, hl, hl']
      exact (hagree.lookup?_linksOf_iff (Registry.build_sound chunks) (Registry.build_sound chunks')
        fun k => h.mem_keys_containment_iff).symm

/-- Two chunks that share a module. The first one has a wrapper as well. -/
def sharingChunks : List Chunk :=
  [⟨"main", .sync, .zero,
      [.bare .normal "a.js" [] [],
        .bare .concatenated "w.js" [.bare .normal "b.js" [] ["a.js"]] [],
        .bare .normal "t.js" [] ["b.js", "a.js"]]⟩,
    ⟨"side", .lazy, .zero, [.bare .normal "t.js" [] ["b.js", "a.js"]]⟩]

/-- The same chunks, last one first, and with the modules of the other one in reverse. -/
def reversedChunks : List Chunk :=
  [⟨"side", .lazy, .zero, [.bare .normal "t.js" [] ["b.js", "a.js"]]⟩,
    ⟨"main", .sync, .zero,
      [.bare .normal "t.js" [] ["b.js", "a.js"],
        .bare .concatenated "w.js" [.bare .normal "b.js" [] ["a.js"]] [],
        .bare .normal "a.js" [] []]⟩]

theorem reordered_sharingChunks : Reordered sharingChunks reversedChunks := by
  refine ⟨reversedChunks.reverse, ?_, List.reverse_perm reversedChunks⟩
  exact .cons ⟨rfl, rfl, rfl, (List.reverse_perm _).symm⟩
    (.cons ⟨rfl, rfl, rfl, List.Perm.refl _⟩ .nil)

/-- Both copies of the shared module are the same record. -/
theorem unambiguous_sharingChunks : Unambiguous sharingChunks := by
  have hcarried : Registry.carried sharingChunks =
      [.bare .normal "a.js" [] [],
        .bare .concatenated "w.js" [.bare .normal "b.js" [] ["a.js"]] [],
        .bare .normal "b.js" [] ["a.js"], .bare .normal "t.js" [] ["b.js", "a.js"],
        .bare .normal "t.js" [] ["b.js", "a.js"]] := by cbv
  have records : ∀ m ∈ Registry.carried sharingChunks, m ∈
      [.bare .normal "a.js" [] [],
        .bare .concatenated "w.js" [.bare .normal "b.js" [] ["a.js"]] [],
        .bare .normal "b.js" [] ["a.js"], .bare .normal "t.js" [] ["b.js", "a.js"]] := by
    intro m hm
    rw [hcarried] at hm
    simpa using hm
  intro m hm m' hm' _ hname _
  exact List.inj_on_of_nodup_map (by decide) (records m' hm') (records m hm) hname

/-- The two graphs list their links in different orders, but they are the same links. -/
theorem buildGraph_reordered_sharingChunks :
    ∃ d d', buildGraph sharingChunks = .ok d ∧ buildGraph reversedChunks = .ok d' ∧
      d.links.map GraphLink.ends = [("main", "a.js"), ("main", "b.js"), ("main", "t.js"),
        ("side", "t.js"), ("a.js", "b.js"), ("b.js", "t.js"), ("a.js", "t.js")] ∧
      d'.links.map GraphLink.ends = [("side", "t.js"), ("main", "t.js"), ("main", "b.js"),
        ("main", "a.js"), ("b.js", "t.js"), ("a.js", "t.js"), ("a.js", "b.js")] ∧
      ∀ l, l ∈ d.links ↔ l ∈ d'.links := by
  obtain ⟨d, hd, hlinks⟩ := exists_ok_of_any (x := buildGraph sharingChunks)
    (p := fun d => d.links.map GraphLink.ends == [("main", "a.js"), ("main", "b.js"),
      ("main", "t.js"), ("side", "t.js"), ("a.js", "b.js"), ("b.js", "t.js"), ("a.js", "t.js")])
    (by cbv)
  obtain ⟨d', hd', hlinks'⟩ := exists_ok_of_any (x := buildGraph reversedChunks)
    (p := fun d => d.links.map GraphLink.ends == [("side", "t.js"), ("main", "t.js"),
      ("main", "b.js"), ("main", "a.js"), ("b.js", "t.js"), ("a.js", "t.js"), ("a.js", "b.js")])
    (by cbv)
  have hsame := buildGraph_reordered reordered_sharingChunks unambiguous_sharingChunks
  exact ⟨d, d', hd, hd', eq_of_beq hlinks, eq_of_beq hlinks', (hsame.2 d d' hd hd').2.2⟩

end BundleGraph
