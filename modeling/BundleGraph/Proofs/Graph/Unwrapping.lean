import BundleGraph.Proofs.Graph.Contents
import BundleGraph.Proofs.Graph.LastReason
import BundleGraph.Proofs.Graph.Nodes

/-! # Wrappers are transparent

    A wrapper takes the place of the modules that it was made of. Chunks in
    which every wrapper is replaced by these modules build the same nodes, and
    the same links to contents (`buildGraph_unwrapped`).

    What is lost is the wrapper as a name for its importers. So a reason that
    names a wrapper leads to no import any more, and a reason that does not
    leads to the same imports as before.
-/

namespace BundleGraph

open BundleGraph.Graph

/-! ### Replacing wrappers -/

/-- The module with other modules nested in it. -/
def Module.nesting (inner : Module → List Module) (m : Module) : Module :=
  { m with subModules := inner m }

/-- The modules that take the place of a module: for a wrapper those that take the place of what is
    directly in it. Any other module stays, and `inner` says what stays nested in it: all of it if
    `inner` is `Module.subModules`, but a build does not look there anyway. -/
def Module.unwrapped (inner : Module → List Module) (m : Module) : List Module :=
  if m.isWrapper then m.subModules.flatMap (Module.unwrapped inner) else [m.nesting inner]
termination_by sizeOf m
decreasing_by
  have := List.sizeOf_lt_of_mem ‹_ ∈ m.subModules›
  have := m.sizeOf_subModules
  omega

/-- The chunk with each wrapper replaced in its place. -/
def Chunk.unwrapped (inner : Module → List Module) (c : Chunk) : Chunk :=
  { c with modules := c.modules.flatMap (Module.unwrapped inner) }

variable {inner : Module → List Module}

@[simp] theorem Module.isWrapper_nesting (m : Module) :
    (m.nesting inner).isWrapper = m.isWrapper := rfl

@[simp] theorem Module.fileName_nesting (m : Module) :
    (m.nesting inner).fileName = m.fileName := rfl

theorem Module.children_carried_of_wrapper {m : Module} (h : m.isWrapper = true) :
    Module.carried.children m = m.subModules := if_pos h

theorem Module.children_carried_of_real {m : Module} (h : m.isWrapper = false) :
    Module.carried.children m = [] := by
  show (if m.isWrapper then m.subModules else []) = []
  rw [h]
  rfl

/-- Wrappers are replaced by the real modules that they stand for, in the order of a walk. -/
theorem Module.flatMap_unwrapped (ms : List Module) :
    ms.flatMap (Module.unwrapped inner) =
      ((Module.carried.walk ms).filter fun m => !m.isWrapper).map (Module.nesting inner) := by
  match ms with
  | [] => simp
  | m :: others =>
    -- a walk goes on with what is in a wrapper, then with the others; both are smaller
    have := m.sizeOf_subModules
    rw [List.flatMap_cons, Unfolding.walk_cons, flatMap_unwrapped others, Module.unwrapped]
    cases hm : m.isWrapper with
    | true =>
      rw [if_pos rfl, Module.children_carried_of_wrapper hm, flatMap_unwrapped m.subModules,
        List.filter_cons_of_neg (by simp [hm]), List.filter_append, List.map_append]
    | false =>
      rw [Module.children_carried_of_real hm, Unfolding.walk_nil, List.nil_append,
        List.filter_cons_of_pos (by simp [hm]), List.map_cons]
      rfl
termination_by sizeOf ms
decreasing_by
  all_goals
    rw [List.cons.sizeOf_spec]
    omega

/-- A walk over real modules goes nowhere else. -/
theorem Module.walk_carried_of_real {ms : List Module} (h : ∀ m ∈ ms, m.isWrapper = false) :
    Module.carried.walk ms = ms := by
  induction ms with
  | nil => exact Unfolding.walk_nil _
  | cons m ms ih =>
    obtain ⟨hm, hms⟩ := List.forall_mem_cons.1 h
    rw [Unfolding.walk_cons, Module.children_carried_of_real hm, Unfolding.walk_nil, ih hms]
    rfl

theorem Chunk.carried_unwrapped (c : Chunk) :
    (c.unwrapped inner).carried =
      (c.carried.filter fun m => !m.isWrapper).map (Module.nesting inner) := by
  show Module.carried.walk (c.modules.flatMap (Module.unwrapped inner)) = _
  rw [Module.flatMap_unwrapped]
  -- no wrapper is left at the top level, so a walk stays there
  apply Module.walk_carried_of_real
  intro m hm
  obtain ⟨real, hreal, rfl⟩ := List.mem_map.1 hm
  simpa using (List.mem_filter.1 hreal).2

/-- A chunk bundles the same modules in the same order. -/
theorem Chunk.contents_unwrapped (c : Chunk) :
    (c.unwrapped inner).contents = c.contents.map (Module.nesting inner) := by
  rw [contents, carried_unwrapped, List.filter_map, List.filter_filter, contents]
  congr 1
  apply List.filter_congr
  intro m _
  rw [Function.comp_apply, Module.isWrapper_nesting, Module.fileName_nesting]
  cases m.isWrapper <;> simp

theorem filter_named_unwrapped (chunks : List Chunk) :
    (chunks.map (Chunk.unwrapped inner)).filter (fun c => c.id ≠ "") =
      (chunks.filter fun c => c.id ≠ "").map (Chunk.unwrapped inner) := by
  rw [List.filter_map]
  rfl

theorem contentsOf_unwrapped (chunks : List Chunk) :
    contentsOf (chunks.map (Chunk.unwrapped inner)) =
      (contentsOf chunks).map fun p => (p.1.unwrapped inner, p.2.nesting inner) := by
  rw [contentsOf, filter_named_unwrapped, List.flatMap_map, contentsOf, List.map_flatMap]
  congr 1
  funext c
  rw [Chunk.contents_unwrapped, List.map_map, List.map_map]
  rfl

/-! ### The registry -/

namespace Registry

/-- The real modules are the same, but for what is nested in them. -/
theorem modules_build_unwrapped (chunks : List Chunk) :
    (build (chunks.map (Chunk.unwrapped inner))).modules =
      (build chunks).modules.mapValues (Module.nesting inner) := by
  rw [build, build, named_real_carried, named_real_carried, contentsOf_unwrapped,
    OrderedMap.mapValues_ofListFirst, List.map_map, List.map_map]
  rfl

/-- There are no wrappers any more. -/
theorem isWrapper_build_unwrapped (chunks : List Chunk) (f : String) :
    (build (chunks.map (Chunk.unwrapped inner))).isWrapper f = false := by
  have hnone : (carried (chunks.map (Chunk.unwrapped inner))).filter Module.isWrapper = [] := by
    rw [List.filter_eq_nil_iff, carried, filter_named_unwrapped, List.flatMap_map]
    intro m hm hw
    obtain ⟨c, _, hm⟩ := List.mem_flatMap.1 hm
    rw [Chunk.carried_unwrapped] at hm
    obtain ⟨real, hreal, rfl⟩ := List.mem_map.1 hm
    rw [Module.isWrapper_nesting] at hw
    simpa [hw] using (List.mem_filter.1 hreal).2
  rw [isWrapper, build, hnone]
  exact Bool.and_false _

theorem contains_build_unwrapped (chunks : List Chunk) (f : String) :
    (build (chunks.map (Chunk.unwrapped inner))).contains f = (build chunks).contains f := by
  rw [Bool.eq_iff_iff, contains_iff, contains_iff, modules_build_unwrapped,
    OrderedMap.keys_mapValues]

/-- A reason stands for nothing that it did not stand for before. -/
theorem mem_sourcesOf_of_unwrapped {chunks : List Chunk} {reason : Reason} {s : String}
    (h : s ∈ (build (chunks.map (Chunk.unwrapped inner))).sourcesOf reason) :
    s ∈ (build chunks).sourcesOf reason := by
  obtain ⟨o, ho, ⟨real, hs⟩ | ⟨only, _⟩⟩ := mem_sourcesOf_iff.1 h
  · rw [contains_build_unwrapped] at real
    exact mem_sourcesOf_iff.2 ⟨o, ho, Or.inl ⟨real, hs⟩⟩
  · rw [isWrapper_build_unwrapped] at only
    cases only

/-- It stands for the same if it does not name a wrapper. -/
theorem sourcesOf_unwrapped {chunks : List Chunk} {reason : Reason}
    (h : ∀ o, reason.origin = some o → (build chunks).isWrapper o = false) :
    (build (chunks.map (Chunk.unwrapped inner))).sourcesOf reason =
      (build chunks).sourcesOf reason := by
  rw [sourcesOf, sourcesOf]
  cases ho : reason.source? with
  | none => rfl
  | some o =>
    have hno := h o (Reason.source?_eq_some_iff.1 ho).1
    simp only [contains_build_unwrapped, isWrapper_build_unwrapped, hno, Bool.false_eq_true,
      if_false]

/-- The imports are the same if no reason of a real module names a wrapper. -/
theorem importLinks_unwrapped {chunks : List Chunk}
    (h : ∀ m ∈ (build chunks).modules.values, ∀ reason ∈ m.reasons, ∀ o,
      reason.origin = some o → (build chunks).isWrapper o = false) :
    (build (chunks.map (Chunk.unwrapped inner))).importLinks = (build chunks).importLinks := by
  rw [importLinks, modules_build_unwrapped, OrderedMap.values_mapValues, List.flatMap_map,
    importLinks]
  apply List.flatMap_congr
  intro m hm
  show m.reasons.flatMap _ = m.reasons.flatMap _
  apply List.flatMap_congr
  intro reason hreason
  rw [linksOfReason, sourcesOf_unwrapped (h m hm reason hreason), linksOfReason]
  rfl

/-- An import between unwrapped modules was an import before. -/
theorem ends_importLinks_of_unwrapped {chunks : List Chunk} {k : String × String}
    (hk : k ∈ (build (chunks.map (Chunk.unwrapped inner))).importLinks.map GraphLink.ends) :
    k ∈ (build chunks).importLinks.map GraphLink.ends := by
  obtain ⟨s, t⟩ := k
  obtain ⟨m, hm, hne, reason, hreason, hs⟩ := (mem_ends_importLinks_iff (build_sound _)).1 hk
  rw [modules_build_unwrapped, OrderedMap.lookup?_mapValues] at hm
  obtain ⟨before, hbefore, rfl⟩ := Option.map_eq_some_iff.1 hm
  exact (mem_ends_importLinks_iff (build_sound chunks)).2
    ⟨before, hbefore, hne, reason, hreason, mem_sourcesOf_of_unwrapped hs⟩

end Registry

/-! ### The finished graph -/

theorem map_id_unwrapped (chunks : List Chunk) :
    (chunks.map (Chunk.unwrapped inner)).map Chunk.id = chunks.map Chunk.id := by
  rw [List.map_map]
  rfl

theorem containment_unwrapped (chunks : List Chunk) :
    containment (chunks.map (Chunk.unwrapped inner)) = containment chunks := by
  rw [containment, contentsOf_unwrapped, List.map_map, containment]
  rfl

theorem collides_unwrapped_iff {chunks : List Chunk} {id : String} :
    Collides (chunks.map (Chunk.unwrapped inner)) id ↔ Collides chunks id := by
  rw [Collides, Collides, ← Registry.contains_build_iff, ← Registry.contains_build_iff,
    Registry.contains_build_unwrapped, ← mem_keys_chunkNodes_iff, ← mem_keys_chunkNodes_iff,
    keys_chunkNodes, keys_chunkNodes, map_id_unwrapped]

section

variable {chunks : List Chunk} (free : ∀ id, ¬ Collides chunks id) {g : Store}
include free

/-- The nodes without their records: first the chunks, then the real modules. -/
theorem map_kind_toGraphData (hnodes : g.nodes = nodesOf (.build chunks) chunks) :
    (g.toGraphData.nodes.map fun n => (n.id, n.kind)) =
      ((chunks.map Chunk.id).filter fun id => id ≠ "").eraseDups.map (fun id =>
        (id, NodeKind.chunk)) ++
      (Registry.build chunks).modules.keys.map (fun f => (f, NodeKind.module)) := by
  have hall := congrArg (List.map fun t : String × NodeKind × Option NodeData => (t.1, t.2.1))
    (map_nodes_toGraphData free hnodes)
  rw [List.map_append, List.map_map, List.map_map, List.map_map] at hall
  rw [OrderedMap.keys, List.map_map]
  exact hall

/-- The links without a reason come in the order of the contents. -/
theorem filter_reason_linkList (hlinks : g.links = linksOf (.build chunks) chunks) :
    g.linkList.filter (fun l => l.reason = none) =
      (containment chunks).keys.map fun k => ⟨k.1, k.2, none⟩ := by
  have hcontents : ∀ l ∈ (containment chunks).keys.map fun k => (⟨k.1, k.2, none⟩ : GraphLink),
      decide (l.reason = none) = true := by
    intro l hl
    obtain ⟨k, _, rfl⟩ := List.mem_map.1 hl
    rfl
  have himports : ∀ l ∈ ((Registry.build chunks).importLinks.map GraphLink.ends).eraseDups.map
      (fun k => (⟨k.1, k.2, (g.links.lookup? k).getD none⟩ : GraphLink)),
      ¬ decide (l.reason = none) = true := by
    intro l hl
    obtain ⟨k, hk, rfl⟩ := List.mem_map.1 hl
    obtain ⟨q, hq⟩ : ∃ q, (linksOf (.build chunks) chunks).lookup? k = some (some q) :=
      lookup?_linksOf_of_import (List.mem_eraseDups.1 hk)
    rw [hlinks, hq]
    simp
  rw [linkList_eq free hlinks, List.filter_append, List.filter_eq_self.2 hcontents,
    List.filter_eq_nil_iff.2 himports, List.append_nil]

end

/-- **Transparency.** Chunks in which each wrapper is replaced in its place fail to build if the
    first ones do, and only then. Otherwise their graph has the same ids and kinds of nodes and the
    same links without a reason, all in the same order, and only imports that the other graph has as
    well. If no reason of a registered module names a wrapper, all links are the same with their
    reasons, and so are the dependencies of each node. -/
theorem buildGraph_unwrapped (inner : Module → List Module) (chunks : List Chunk) :
    ((∃ v, buildGraph chunks = .error v) ↔
      ∃ v, buildGraph (chunks.map (Chunk.unwrapped inner)) = .error v) ∧
    ∀ d d', buildGraph chunks = .ok d → buildGraph (chunks.map (Chunk.unwrapped inner)) = .ok d' →
      (d.nodes.map fun n => (n.id, n.kind)) = (d'.nodes.map fun n => (n.id, n.kind)) ∧
      (d.links.filter fun l => l.reason = none) = (d'.links.filter fun l => l.reason = none) ∧
      (∀ s t, (∃ q, ⟨s, t, some q⟩ ∈ d'.links) → ∃ q, ⟨s, t, some q⟩ ∈ d.links) ∧
      ((∀ m ∈ (Registry.build chunks).modules.values, ∀ reason ∈ m.reasons, ∀ o,
          reason.origin = some o → (Registry.build chunks).isWrapper o = false) →
        d.links = d'.links ∧
        (d.nodes.map fun n => (n.id, n.dependencies)) =
          d'.nodes.map fun n => (n.id, n.dependencies)) := by
  constructor
  · rw [exists_buildGraph_error_iff, exists_buildGraph_error_iff]
    exact exists_congr fun id => collides_unwrapped_iff.symm
  · intro d d' hd hd'
    obtain ⟨free, g, rfl, hn, hl⟩ := exists_store_of_buildGraph hd
    obtain ⟨free', g', rfl, hn', hl'⟩ := exists_store_of_buildGraph hd'
    have hkinds : (g.toGraphData.nodes.map fun n => (n.id, n.kind)) =
        g'.toGraphData.nodes.map fun n => (n.id, n.kind) := by
      rw [map_kind_toGraphData free hn, map_kind_toGraphData free' hn', map_id_unwrapped,
        Registry.modules_build_unwrapped, OrderedMap.keys_mapValues]
    refine ⟨hkinds, ?_, ?_, ?_⟩
    · show g.linkList.filter _ = g'.linkList.filter _
      rw [filter_reason_linkList free hl, filter_reason_linkList free' hl', containment_unwrapped]
    · intro s t himport
      rw [exists_link_with_reason_iff hl'] at himport
      rw [exists_link_with_reason_iff hl]
      exact Registry.ends_importLinks_of_unwrapped himport
    · intro hnone
      have hlinks : g.links = g'.links := by
        rw [hl, hl', linksOf, linksOf, containment_unwrapped, Registry.importLinks_unwrapped hnone]
      have hkeys : g.nodes.keys = g'.nodes.keys := by
        have hids := congrArg (List.map Prod.fst) hkinds
        rw [List.map_map, List.map_map] at hids
        rw [← g.map_id_toGraphData, ← g'.map_id_toGraphData]
        exact hids
      constructor
      · show g.linkList = g'.linkList
        rw [Store.linkList, Store.linkList, hlinks]
      · have htargets : g.targets = g'.targets := by
          funext id
          rw [Store.targets, Store.targets, hlinks]
        rw [Store.map_dependencies_toGraphData, Store.map_dependencies_toGraphData, hkeys, htargets]

/-- A chunk with a wrapper in a wrapper, where no reason names one of them. -/
def nestedChunks : List Chunk :=
  [⟨"main", .sync, .zero,
    [.bare .normal "a.js" [] [],
      .bare .concatenated "w.js"
        [.bare .normal "b.js" [] ["a.js"],
          .bare .concatenated "v.js" [.bare .normal "c.js" [] ["b.js"]] ["a.js"]] [],
      .bare .normal "t.js" [] ["c.js", "a.js"]]⟩]

/-- The same chunk without wrappers. -/
def flatChunks : List Chunk :=
  [⟨"main", .sync, .zero,
    [.bare .normal "a.js" [] [], .bare .normal "b.js" [] ["a.js"],
      .bare .normal "c.js" [] ["b.js"], .bare .normal "t.js" [] ["c.js", "a.js"]]⟩]

/-- Both have the same links, and a chunk node that depends on the modules in the wrappers. -/
theorem buildGraph_unwrapped_nestedChunks :
    nestedChunks.map (Chunk.unwrapped Module.subModules) = flatChunks ∧
    ∃ d d', buildGraph nestedChunks = .ok d ∧ buildGraph flatChunks = .ok d' ∧
      d.links = d'.links ∧ d'.links.map GraphLink.ends = [("main", "a.js"), ("main", "b.js"),
        ("main", "c.js"), ("main", "t.js"), ("a.js", "b.js"), ("b.js", "c.js"), ("c.js", "t.js"),
        ("a.js", "t.js")] := by
  have hflat : nestedChunks.map (Chunk.unwrapped Module.subModules) = flatChunks := by cbv
  obtain ⟨d, hd, _⟩ := exists_ok_of_any (x := buildGraph nestedChunks) (p := fun _ => true) (by cbv)
  obtain ⟨d', hd', hends⟩ := exists_ok_of_any (x := buildGraph flatChunks)
    (p := fun d => d.links.map GraphLink.ends == [("main", "a.js"), ("main", "b.js"),
      ("main", "c.js"), ("main", "t.js"), ("a.js", "b.js"), ("b.js", "c.js"), ("c.js", "t.js"),
      ("a.js", "t.js")]) (by cbv)
  have hvalues : (Registry.build nestedChunks).modules.values =
      [.bare .normal "a.js" [] [], .bare .normal "b.js" [] ["a.js"],
        .bare .normal "c.js" [] ["b.js"], .bare .normal "t.js" [] ["c.js", "a.js"]] := by cbv
  have hwrappers : (Registry.build nestedChunks).wrappers.keys = ["w.js", "v.js"] := by cbv
  have hnone : ∀ m ∈ (Registry.build nestedChunks).modules.values, ∀ reason ∈ m.reasons, ∀ o,
      reason.origin = some o → (Registry.build nestedChunks).isWrapper o = false := by
    have origins : ∀ m ∈ (Registry.build nestedChunks).modules.values, ∀ reason ∈ m.reasons,
        reason.origin ∈ [some "a.js", some "b.js", some "c.js"] := by
      rw [hvalues]
      decide
    intro m hm reason hreason o ho
    have horigin := origins m hm reason hreason
    rw [ho] at horigin
    rw [← Bool.not_eq_true, Registry.isWrapper_iff, hwrappers]
    intro hwrapper
    simp only [List.mem_cons, Option.some.injEq, List.not_mem_nil, or_false] at horigin hwrapper
    rcases horigin with rfl | rfl | rfl <;> simp at hwrapper
  have hunwrapped : buildGraph (nestedChunks.map (Chunk.unwrapped Module.subModules)) = .ok d' := by
    rw [hflat]
    exact hd'
  have hsame := (buildGraph_unwrapped Module.subModules nestedChunks).2 d d' hd hunwrapped
  exact ⟨hflat, d, d', hd, hd', (hsame.2.2.2 hnone).1, eq_of_beq hends⟩

end BundleGraph
