import BundleGraph.Proofs.Graph.Links

/-! # Wrappers are contracted

    In the graph a route through wrappers is one link. The imports are exactly
    the pairs of different real modules between which there is a route
    (`exists_import_iff_route`), however the wrappers are nested and whatever
    cycles they form.
-/

namespace BundleGraph

/-- A reason of a real module stands for `s` if it names `s`, or a wrapper to which a route leads
    from `s`. -/
theorem exists_source_iff_route {r : Registry} (h : r.Sound) {s t : String}
    (real : r.contains t = true) :
    (∃ m, r.modules.lookup? t = some m ∧ ∃ reason ∈ m.reasons, s ∈ r.sourcesOf reason) ↔
      r.contains s = true ∧ ∃ ws, r.Route s ws t := by
  constructor
  · intro h
    obtain ⟨m, hm, reason, hr, hs⟩ := h
    obtain ⟨o, ho, hcase⟩ := Registry.mem_sourcesOf_iff.1 hs
    have last : r.Leads o t := (Registry.leads_module_iff real).2 ⟨m, hm, reason, hr, ho⟩
    rcases hcase with ⟨hreal, hso⟩ | ⟨only, himp⟩
    · subst hso
      exact ⟨hreal, [], Registry.route_nil_iff.2 last⟩
    · obtain ⟨hreal, ws, hroute⟩ := (h.chain_iff_route only).1 (Registry.mem_importers_iff.1 himp)
      exact ⟨hreal, ws ++ [o], Registry.route_concat_iff.2 ⟨only, hroute, last⟩⟩
  · intro h
    obtain ⟨hreal, ws, hroute⟩ := h
    -- the last step of the route is a reason of `t`; before it stands `s` itself or a wrapper
    rcases List.eq_nil_or_concat ws with hws | ⟨before, w, hws⟩
    · subst hws
      obtain ⟨m, hm, reason, hr, hs⟩ :=
        (Registry.leads_module_iff real).1 (Registry.route_nil_iff.1 hroute)
      exact ⟨m, hm, reason, hr, Registry.mem_sourcesOf_iff.2 ⟨s, hs, Or.inl ⟨hreal, rfl⟩⟩⟩
    · rw [hws, List.concat_eq_append] at hroute
      obtain ⟨only, hbefore, last⟩ := Registry.route_concat_iff.1 hroute
      obtain ⟨m, hm, reason, hr, hs⟩ := (Registry.leads_module_iff real).1 last
      have himp : s ∈ r.importers w :=
        Registry.mem_importers_iff.2 ((h.chain_iff_route only).2 ⟨hreal, before, hbefore⟩)
      exact ⟨m, hm, reason, hr, Registry.mem_sourcesOf_iff.2 ⟨w, hs, Or.inr ⟨only, himp⟩⟩⟩

/-- **Contraction.** A graph imports `t` from `s` if and only if both are real modules, they are
    different, and there is a route from `s` to `t` on which only wrappers lie in between. -/
theorem exists_import_iff_route {chunks : List Chunk} {d : GraphData}
    (h : buildGraph chunks = .ok d)
    (s t : String) :
    (∃ l ∈ d.links, l.source = s ∧ l.target = t ∧ l.reason.isSome = true) ↔
      (Registry.build chunks).contains s = true ∧ (Registry.build chunks).contains t = true ∧
        s ≠ t ∧ ∃ ws, (Registry.build chunks).Route s ws t := by
  obtain ⟨free, g, rfl, -, hlinks⟩ := exists_store_of_buildGraph h
  have hs := Registry.build_sound chunks
  -- a link with a reason is an import of its two ends
  have himport : (∃ l ∈ g.toGraphData.links, l.source = s ∧ l.target = t ∧ l.reason.isSome = true) ↔
      (s, t) ∈ (Registry.build chunks).importLinks.map GraphLink.ends := by
    rw [← exists_lookup?_linksOf_iff free, ← hlinks]
    constructor
    · intro h
      obtain ⟨l, hl, hsrc, htgt, hreason⟩ := h
      obtain ⟨q, hq⟩ := Option.isSome_iff_exists.1 hreason
      refine ⟨q, ?_⟩
      rw [← hq, ← hsrc, ← htgt]
      exact Graph.Store.mem_linkList_iff.1 hl
    · intro h
      obtain ⟨q, hq⟩ := h
      exact ⟨⟨s, t, some q⟩, Graph.Store.mem_linkList_iff.2 hq, rfl, rfl, rfl⟩
  rw [himport, mem_ends_importLinks_iff hs]
  constructor
  · intro h
    obtain ⟨m, hm, hne, hsource⟩ := h
    have real : (Registry.build chunks).contains t = true :=
      Registry.contains_iff.2 (OrderedMap.mem_keys_of_lookup? hm)
    obtain ⟨hreal, hroute⟩ := (exists_source_iff_route hs real).1 ⟨m, hm, hsource⟩
    exact ⟨hreal, real, hne, hroute⟩
  · intro h
    obtain ⟨hreal, real, hne, hroute⟩ := h
    obtain ⟨m, hm, hsource⟩ := (exists_source_iff_route hs real).2 ⟨hreal, hroute⟩
    exact ⟨m, hm, hne, hsource⟩

/-- In the small bundle `w.js` pulls in `t.js`, and `a.js` pulls in `w.js` through another wrapper.
    So `t.js` is imported from `a.js`, and nothing is imported from a wrapper. -/
theorem imports_smallBundle :
    ∃ d, buildGraph smallBundle = .ok d ∧
      (∃ l ∈ d.links, l.source = "a.js" ∧ l.target = "t.js" ∧ l.reason.isSome = true) ∧
      ¬ ∃ l ∈ d.links, l.source = "w.js" ∧ l.target = "t.js" ∧ l.reason.isSome = true := by
  obtain ⟨d, hd⟩ := exists_buildGraph not_collides_smallBundle
  have target := contains_smallBundle_iff.2 (by decide : "t.js" ∈ ["a.js", "b.js", "t.js"])
  have only := isWrapper_smallBundle_iff.2 (by decide : "w.js" ∈ ["w.js", "v.js"])
  have hm : (Registry.build smallBundle).modules.lookup? "t.js"
      = some (.bare .normal "t.js" [] ["a.js", "w.js"]) := by
    rw [← OrderedMap.mem_entries_iff, modules_smallBundle]
    simp
  have last : (Registry.build smallBundle).Leads "w.js" "t.js" :=
    (Registry.leads_module_iff target).2
      ⟨_, hm, ⟨some "w.js", "", none⟩, List.mem_cons_of_mem _ List.mem_cons_self, rfl⟩
  refine ⟨d, hd, ?_, ?_⟩
  · exact (exists_import_iff_route hd "a.js" "t.js").2
      ⟨contains_smallBundle_iff.2 (by decide), target, by decide,
        _, Registry.route_concat_iff.2 ⟨only, route_smallBundle, last⟩⟩
  · intro himp
    have hreal := ((exists_import_iff_route hd "w.js" "t.js").1 himp).1
    rw [contains_smallBundle_iff] at hreal
    revert hreal
    decide

end BundleGraph
