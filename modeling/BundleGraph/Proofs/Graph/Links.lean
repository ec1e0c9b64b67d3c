import BundleGraph.Proofs.Graph.Build

/-! # The links of a finished graph

    Without a collision, the links of a graph are those to the contents of the
    chunks, followed by the imports (`keys_linksOf`). The two never meet: the
    former start at a chunk, the latter at a real module. So no import replaces
    a link to a content, and a link has a reason exactly if it is an import.
-/

namespace BundleGraph

open BundleGraph.Graph

/-! ### Links to contents -/

theorem keys_containment (chunks : List Chunk) :
    (containment chunks).keys =
      ((contentsOf chunks).map fun p => (p.1.id, p.2.fileName)).eraseDups := by
  rw [containment, OrderedMap.keys_insertAll, OrderedMap.keys_empty, List.nil_append, List.map_map]
  rfl

theorem mem_keys_containment_iff {chunks : List Chunk} {c f : String} :
    (c, f) ∈ (containment chunks).keys ↔ c ≠ "" ∧ ∃ ch ∈ chunks, ch.id = c ∧ ch.Bundles f := by
  rw [keys_containment, List.mem_eraseDups, List.mem_map]
  constructor
  · intro h
    obtain ⟨⟨ch, m⟩, hp, hpair⟩ := h
    obtain ⟨⟨hch, hid⟩, hm⟩ := mem_contentsOf_iff.1 hp
    cases hpair
    exact ⟨hid, ch, hch, rfl, Chunk.bundles_iff.2 ⟨m, hm, rfl⟩⟩
  · intro h
    obtain ⟨hid, ch, hch, hc, hf⟩ := h
    obtain ⟨m, hm, rfl⟩ := Chunk.bundles_iff.1 hf
    subst hc
    exact ⟨(ch, m), mem_contentsOf_iff.2 ⟨⟨hch, hid⟩, hm⟩, rfl⟩

/-- No link to a content has a reason. -/
theorem lookup?_containment {chunks : List Chunk} {k : String × String}
    (h : k ∈ (containment chunks).keys) : (containment chunks).lookup? k = some none := by
  obtain ⟨a, ha⟩ := OrderedMap.exists_lookup?_of_mem_keys h
  have hfind := ha
  rw [containment, OrderedMap.lookup?_insertAll, OrderedMap.lookup?_empty, Option.or_none] at hfind
  obtain ⟨p, _, hp⟩ := List.mem_map.1 (List.mem_reverse.1 (OrderedMap.mem_of_find_eq_some hfind))
  cases hp
  exact ha

/-! ### Imports -/

/-- The two ends of a link. -/
def GraphLink.ends (l : GraphLink) : String × String := (l.source, l.target)

theorem map_fst_importLinks (r : Registry) :
    (r.importLinks.map fun l => ((l.source, l.target), l.reason)).map Prod.fst
      = r.importLinks.map GraphLink.ends := by
  rw [List.map_map]
  rfl

/-- There is an import from `s` to `t` if a reason of `t` stands for `s`, and `s` is not `t`. -/
theorem mem_ends_importLinks_iff {r : Registry} (h : r.Sound) {s t : String} :
    (s, t) ∈ r.importLinks.map GraphLink.ends ↔
      ∃ m, r.modules.lookup? t = some m ∧ s ≠ t ∧ ∃ reason ∈ m.reasons, s ∈ r.sourcesOf reason := by
  rw [List.mem_map]
  constructor
  · intro h
    obtain ⟨l, hl, hends⟩ := h
    obtain ⟨m, hm, reason, hr, s', hs, hne, rfl⟩ := Registry.mem_importLinks_iff.1 hl
    cases hends
    exact ⟨m, h.exists_lookup?_of_mem_values hm, hne, reason, hr, hs⟩
  · intro h
    obtain ⟨m, hm, hne, reason, hr, hs⟩ := h
    have hname := (h.real hm).1
    refine ⟨⟨s, m.fileName, some (reason.carriedFrom s)⟩, ?_, ?_⟩
    · exact Registry.mem_importLinks_iff.2
        ⟨m, OrderedMap.mem_values_of_lookup? hm, reason, hr, s, hs, hname ▸ hne, rfl⟩
    · rw [← hname]
      rfl

/-- A pair of ends that is an import has a reason, whichever import of the pair came last. -/
theorem lookup?_linksOf_of_import {r : Registry} {chunks : List Chunk} {k : String × String}
    (hk : k ∈ r.importLinks.map GraphLink.ends) :
    ∃ q, (linksOf r chunks).lookup? k = some (some q) := by
  have hsome : (OrderedMap.find k
      (r.importLinks.map fun l => ((l.source, l.target), l.reason)).reverse).isSome = true := by
    rw [OrderedMap.find_isSome, List.map_reverse, List.mem_reverse, map_fst_importLinks]
    exact hk
  obtain ⟨q, hq⟩ := Option.isSome_iff_exists.1 hsome
  have hmem := List.mem_reverse.1 (OrderedMap.mem_of_find_eq_some hq)
  obtain ⟨l, hl, he⟩ := List.mem_map.1 hmem
  obtain ⟨m, _, reason, _, s, _, _, rfl⟩ := Registry.mem_importLinks_iff.1 hl
  refine ⟨reason.carriedFrom s, ?_⟩
  rw [linksOf, OrderedMap.lookup?_insertAll, hq, Option.some_or]
  cases he
  rfl

/-! ### Links with and without a reason -/

theorem mem_keys_linksOf_iff {r : Registry} {chunks : List Chunk} {k : String × String} :
    k ∈ (linksOf r chunks).keys ↔
      k ∈ (containment chunks).keys ∨ k ∈ r.importLinks.map GraphLink.ends := by
  rw [linksOf, OrderedMap.keys_insertAll, map_fst_importLinks, List.mem_eraseDups, List.mem_append]

/-- An import replaces a link to a content. So a link has no reason if it leads to a content and is
    no import as well. -/
theorem lookup?_linksOf_none_iff {r : Registry} {chunks : List Chunk} {k : String × String} :
    (linksOf r chunks).lookup? k = some none ↔
      k ∈ (containment chunks).keys ∧ k ∉ r.importLinks.map GraphLink.ends := by
  constructor
  · intro hnone
    have hno : k ∉ r.importLinks.map GraphLink.ends := by
      intro himp
      obtain ⟨q, hq⟩ : ∃ q, (linksOf r chunks).lookup? k = some (some q) :=
        lookup?_linksOf_of_import himp
      rw [hq] at hnone
      cases hnone
    have hmem := mem_keys_linksOf_iff.1 (OrderedMap.mem_keys_of_lookup? hnone)
    exact ⟨hmem.resolve_right hno, hno⟩
  · intro h
    obtain ⟨hmem, hno⟩ := h
    rw [← map_fst_importLinks] at hno
    rw [linksOf, OrderedMap.lookup?_insertAll_of_not_mem hno, lookup?_containment hmem]

/-- A link has a reason if it is an import. -/
theorem exists_lookup?_linksOf_some_iff {r : Registry} {chunks : List Chunk} {k : String × String} :
    (∃ q, (linksOf r chunks).lookup? k = some (some q)) ↔
      k ∈ r.importLinks.map GraphLink.ends := by
  constructor
  · intro h
    obtain ⟨q, hq⟩ := h
    by_contra hno
    have hmem := mem_keys_linksOf_iff.1 (OrderedMap.mem_keys_of_lookup? hq)
    rw [lookup?_linksOf_none_iff.2 ⟨hmem.resolve_right hno, hno⟩] at hq
    cases hq
  · exact lookup?_linksOf_of_import

/-! ### Both -/

section both

variable {chunks : List Chunk} (free : ∀ id, ¬ Collides chunks id)
include free

/-- A chunk does not have the name of a real module. -/
theorem not_contains_of_chunk {c : Chunk} (hc : c ∈ chunks) (hid : c.id ≠ "") :
    (Registry.build chunks).contains c.id = false := by
  rw [← Bool.not_eq_true, Registry.contains_build_iff]
  exact fun hb => free c.id ⟨⟨c, hc, hid, rfl⟩, hb⟩

/-- Imports start at real modules, so they never meet a link to a content. -/
theorem not_mem_keys_containment {k : String × String}
    (hk : k ∈ (Registry.build chunks).importLinks.map GraphLink.ends) :
    k ∉ (containment chunks).keys := by
  intro hmem
  obtain ⟨l, hl, rfl⟩ := List.mem_map.1 hk
  have real := ((Registry.build_sound chunks).ends_of_mem_importLinks hl).1
  obtain ⟨hne, ch, hch, hid, _⟩ := mem_keys_containment_iff.1 hmem
  rw [← hid] at hne real
  rw [not_contains_of_chunk free hch hne] at real
  cases real

/-- The links to the contents come first, then the imports, each pair where it first came. -/
theorem keys_linksOf :
    (linksOf (.build chunks) chunks).keys = (containment chunks).keys ++
      ((Registry.build chunks).importLinks.map GraphLink.ends).eraseDups := by
  rw [linksOf, OrderedMap.keys_insertAll, map_fst_importLinks,
    eraseDups_append_of_disjoint fun k hk => not_mem_keys_containment free hk,
    eraseDups_eq_self (containment chunks).nodup_keys]

theorem lookup?_linksOf_of_containment {k : String × String} (hk : k ∈ (containment chunks).keys) :
    (linksOf (.build chunks) chunks).lookup? k = some none :=
  lookup?_linksOf_none_iff.2 ⟨hk, fun himp => not_mem_keys_containment free himp hk⟩

/-- A link without a reason is a link to a content, and the other way round. -/
theorem lookup?_linksOf_eq_none_iff {k : String × String} :
    (linksOf (.build chunks) chunks).lookup? k = some none ↔ k ∈ (containment chunks).keys := by
  constructor
  · exact fun hnone => (lookup?_linksOf_none_iff.1 hnone).1
  · exact lookup?_linksOf_of_containment free

/-- A link with a reason is an import, and the other way round. -/
theorem exists_lookup?_linksOf_iff {k : String × String} :
    (∃ q, (linksOf (.build chunks) chunks).lookup? k = some (some q)) ↔
      k ∈ (Registry.build chunks).importLinks.map GraphLink.ends := by
  constructor
  · intro h
    obtain ⟨q, hq⟩ := h
    have hmem := OrderedMap.mem_keys_of_lookup? hq
    rw [keys_linksOf free, List.mem_append, List.mem_eraseDups] at hmem
    rcases hmem with hmem | hmem
    · rw [lookup?_linksOf_of_containment free hmem] at hq
      cases hq
    · exact hmem
  · exact lookup?_linksOf_of_import

end both

/-! ### In the finished graph -/

theorem Graph.Store.mem_linkList_iff {g : Store} {l : GraphLink} :
    l ∈ g.linkList ↔ g.links.lookup? l.ends = some l.reason := by
  rw [← OrderedMap.mem_entries_iff, Store.linkList, List.mem_map]
  constructor
  · intro h
    obtain ⟨e, he, hl⟩ := h
    subst hl
    exact he
  · intro he
    exact ⟨_, he, rfl⟩

/-- The links with a reason are the imports of the registry. -/
theorem exists_link_with_reason_iff {r : Registry} {chunks : List Chunk} {g : Store}
    (hlinks : g.links = linksOf r chunks) {s t : String} :
    (∃ q, ⟨s, t, some q⟩ ∈ g.toGraphData.links) ↔ (s, t) ∈ r.importLinks.map GraphLink.ends := by
  have hlookup : (∃ q, (linksOf r chunks).lookup? (s, t) = some (some q)) ↔
      (s, t) ∈ r.importLinks.map GraphLink.ends := exists_lookup?_linksOf_some_iff
  rw [← hlookup, ← hlinks]
  exact exists_congr fun q => Store.mem_linkList_iff

/-- A store that was built has the nodes and the links that the chunks ask for. -/
theorem spec_of_buildStore {chunks : List Chunk} {g : Store} (h : buildStore chunks = .ok g) :
    (∀ id, ¬ Collides chunks id) ∧
      g.nodes = nodesOf (.build chunks) chunks ∧ g.links = linksOf (.build chunks) chunks := by
  rcases buildStore_cases chunks with ⟨id, _, herr⟩ | ⟨free, g', hg', hn, hl⟩
  · rw [herr] at h
    cases h
  · obtain rfl : g' = g := Except.ok.inj (hg'.symm.trans h)
    exact ⟨free, hn, hl⟩

/-- A graph that was built comes from such a store. -/
theorem exists_store_of_buildGraph {chunks : List Chunk} {d : GraphData}
    (h : buildGraph chunks = .ok d) :
    (∀ id, ¬ Collides chunks id) ∧ ∃ g : Store, d = g.toGraphData ∧
      g.nodes = nodesOf (.build chunks) chunks ∧ g.links = linksOf (.build chunks) chunks := by
  obtain ⟨g, hg, hd⟩ := buildGraph_eq_ok_iff.1 h
  obtain ⟨free, hn, hl⟩ := spec_of_buildStore hg
  exact ⟨free, g, hd, hn, hl⟩

/-- Without a collision there is a store, and so there is a graph. -/
theorem exists_buildStore {chunks : List Chunk} (free : ∀ id, ¬ Collides chunks id) :
    ∃ g, buildStore chunks = .ok g := by
  rcases buildStore_cases chunks with ⟨id, hid, _⟩ | ⟨_, g, hg, _⟩
  · exact absurd hid (free id)
  · exact ⟨g, hg⟩

theorem exists_buildGraph {chunks : List Chunk} (free : ∀ id, ¬ Collides chunks id) :
    ∃ d, buildGraph chunks = .ok d := by
  obtain ⟨g, hg⟩ := exists_buildStore free
  exact ⟨g.toGraphData, buildGraph_eq_ok_iff.2 ⟨g, hg, rfl⟩⟩

/-- A build fails exactly on a collision. -/
theorem exists_buildGraph_error_iff {chunks : List Chunk} :
    (∃ v, buildGraph chunks = .error v) ↔ ∃ id, Collides chunks id := by
  constructor
  · intro h
    obtain ⟨v, hv⟩ := h
    by_contra hfree
    obtain ⟨d, hd⟩ := exists_buildGraph (not_exists.1 hfree)
    rw [hd] at hv
    cases hv
  · intro h
    cases hbuild : buildGraph chunks with
    | error v => exact ⟨v, rfl⟩
    | ok d => exact absurd h (not_exists.2 (exists_store_of_buildGraph hbuild).1)

/-! ### A small bundle -/

/-- A module of which only the name, the kind, the contents and the reasons matter. -/
def Module.bare (kind : ModuleKind) (fileName : String) (subModules : List Module)
    (origins : List String) : Module :=
  ⟨none, fileName, kind, .zero, [], [], false, subModules,
    origins.map fun o => ⟨some o, "", none⟩⟩

/-- One chunk with three real modules, one of them inside a wrapper, and with two wrappers that
    name each other. -/
def smallBundle : List Chunk :=
  [⟨"main", .sync, .zero,
    [.bare .normal "a.js" [] [],
      .bare .concatenated "w.js" [.bare .normal "b.js" [] ["v.js"]] ["w.js"],
      .bare .concatenated "v.js" [] ["w.js", "a.js"],
      .bare .normal "t.js" [] ["a.js", "w.js"]]⟩]

theorem carried_smallBundle :
    Registry.carried smallBundle =
      [.bare .normal "a.js" [] [],
        .bare .concatenated "w.js" [.bare .normal "b.js" [] ["v.js"]] ["w.js"],
        .bare .normal "b.js" [] ["v.js"],
        .bare .concatenated "v.js" [] ["w.js", "a.js"],
        .bare .normal "t.js" [] ["a.js", "w.js"]] := by
  simp [Registry.carried, Chunk.carried, smallBundle, Unfolding.walk_cons, Module.carried,
    Module.isWrapper, Module.bare]

theorem modules_smallBundle :
    (Registry.build smallBundle).modules.entries =
      [("a.js", .bare .normal "a.js" [] []), ("b.js", .bare .normal "b.js" [] ["v.js"]),
        ("t.js", .bare .normal "t.js" [] ["a.js", "w.js"])] := by
  rw [Registry.build, carried_smallBundle]
  rfl

theorem wrappers_smallBundle :
    (Registry.build smallBundle).wrappers.entries =
      [("w.js", .bare .concatenated "w.js" [.bare .normal "b.js" [] ["v.js"]] ["w.js"]),
        ("v.js", .bare .concatenated "v.js" [] ["w.js", "a.js"])] := by
  rw [Registry.build, carried_smallBundle]
  rfl

theorem contains_smallBundle_iff {f : String} :
    (Registry.build smallBundle).contains f = true ↔ f ∈ ["a.js", "b.js", "t.js"] := by
  rw [Registry.contains_iff, OrderedMap.keys, modules_smallBundle]
  rfl

theorem isWrapper_smallBundle_iff {f : String} :
    (Registry.build smallBundle).isWrapper f = true ↔ f ∈ ["w.js", "v.js"] := by
  rw [Registry.isWrapper_iff, ← Registry.contains_iff, contains_smallBundle_iff, OrderedMap.keys,
    wrappers_smallBundle]
  constructor
  · exact fun h => h.2
  · intro h
    refine ⟨?_, h⟩
    simp only [List.mem_cons, List.not_mem_nil, or_false] at h
    rcases h with rfl | rfl <;> decide

theorem not_collides_smallBundle (id : String) : ¬ Collides smallBundle id := by
  intro h
  obtain ⟨⟨c, hc, _, hid⟩, hb⟩ := h
  rw [← Registry.contains_build_iff, contains_smallBundle_iff, ← hid] at hb
  rw [smallBundle, List.mem_singleton] at hc
  subst hc
  simp at hb

/-- What brings the two wrappers in; `w.js` is entered through the module that is nested in it. -/
theorem inbound_smallBundle :
    (Registry.build smallBundle).inbound "v.js" = ["w.js", "a.js"] ∧
      (Registry.build smallBundle).inbound "w.js" = ["w.js", "v.js"] := by
  have hv : (Registry.build smallBundle).wrappers.lookup? "v.js"
      = some (.bare .concatenated "v.js" [] ["w.js", "a.js"]) := by
    rw [← OrderedMap.mem_entries_iff, wrappers_smallBundle]
    simp
  have hw : (Registry.build smallBundle).wrappers.lookup? "w.js"
      = some (.bare .concatenated "w.js" [.bare .normal "b.js" [] ["v.js"]] ["w.js"]) := by
    rw [← OrderedMap.mem_entries_iff, wrappers_smallBundle]
    simp
  have inside_v : (Module.bare .concatenated "v.js" [] ["w.js", "a.js"]).nested = [] := by
    simp [Module.nested, Unfolding.below, Module.parts, Module.bare]
  have inside_w : (Module.bare .concatenated "w.js" [.bare .normal "b.js" [] ["v.js"]]
      ["w.js"]).nested = [.bare .normal "b.js" [] ["v.js"]] := by
    simp [Module.nested, Unfolding.below, Unfolding.walk_cons, Module.parts, Module.bare]
  constructor
  · rw [Registry.inbound, hv]
    simp only [Module.inbound, Module.insideNames, inside_v]
    rfl
  · rw [Registry.inbound, hw]
    simp only [Module.inbound, Module.insideNames, inside_w]
    rfl

/-- So `a.js` pulls in `v.js`, and through it `w.js`. -/
theorem route_smallBundle : (Registry.build smallBundle).Route "a.js" ["v.js"] "w.js" := by
  have hs := Registry.build_sound smallBundle
  have only_v := isWrapper_smallBundle_iff.2 (by decide : "v.js" ∈ ["w.js", "v.js"])
  have only_w := isWrapper_smallBundle_iff.2 (by decide : "w.js" ∈ ["w.js", "v.js"])
  have first : (Registry.build smallBundle).Leads "a.js" "v.js" := by
    rw [hs.leads_wrapper_iff only_v, inbound_smallBundle.1]
    decide
  have second : (Registry.build smallBundle).Leads "v.js" "w.js" := by
    rw [hs.leads_wrapper_iff only_w, inbound_smallBundle.2]
    decide
  exact Registry.route_concat_iff.2 ⟨only_v, Registry.route_nil_iff.2 first, second⟩

theorem mem_importers_smallBundle : "a.js" ∈ (Registry.build smallBundle).importers "w.js" := by
  have only := isWrapper_smallBundle_iff.2 (by decide : "w.js" ∈ ["w.js", "v.js"])
  rw [Registry.mem_importers_iff, (Registry.build_sound smallBundle).chain_iff_route only]
  exact ⟨contains_smallBundle_iff.2 (by decide), _, route_smallBundle⟩

end BundleGraph
