import BundleGraph.Proofs.Graph.Links

/-! # The last reason of an import, and its place

    Several reasons of a module can stand for the same source. The last one of
    them says what the link carries, the first one says where the link stands.

    The links of other modules have other targets, and links to contents have
    other sources, so nothing else replaces the reason (`lookup?_linksOf_last`)
    or moves the link (`map_ends_importLinks`).
-/

namespace BundleGraph

open BundleGraph.Graph

/-! ### Lists -/

/-- If a member of a list has a property, then there is a last such member. -/
theorem exists_last {α : Type} {p : α → Prop} (xs : List α) (h : ∃ x ∈ xs, p x) :
    ∃ before x after, xs = before ++ x :: after ∧ p x ∧ ∀ y ∈ after, ¬ p y := by
  induction xs with
  | nil => simp at h
  | cons a xs ih =>
    by_cases hrest : ∃ x ∈ xs, p x
    · obtain ⟨before, x, after, hxs, hx, hlast⟩ := ih hrest
      exact ⟨a :: before, x, after, by rw [hxs, List.cons_append], hx, hlast⟩
    · have ha : p a := by
        obtain ⟨x, hx, hpx⟩ := h
        rcases List.mem_cons.1 hx with hxa | hx
        · exact hxa ▸ hpx
        · exact absurd ⟨x, hx, hpx⟩ hrest
      exact ⟨[], a, xs, rfl, ha, fun y hy hpy => hrest ⟨y, hy, hpy⟩⟩

namespace Registry

/-! ### The last reason -/

/-- `r.Supplies reason s`: the reason names `s`, or it names a wrapper and `s` is one of its
    importers. -/
def Supplies (r : Registry) (reason : Reason) (s : String) : Prop :=
  reason.origin = some s ∨
    ∃ w, reason.origin = some w ∧ r.isWrapper w = true ∧ s ∈ r.importers w

/-- For a real module this is what it is to be a source of the reason. -/
theorem Sound.supplies_iff {r : Registry} (h : r.Sound) {reason : Reason} {s : String}
    (real : r.contains s = true) : r.Supplies reason s ↔ s ∈ r.sourcesOf reason := by
  rw [mem_sourcesOf_iff]
  constructor
  · intro hsup
    rcases hsup with ho | ⟨w, ho, only, himp⟩
    · obtain ⟨m, hm⟩ := OrderedMap.exists_lookup?_of_mem_keys (contains_iff.1 real)
      have hne : s ≠ "" := (h.real hm).2.1
      exact ⟨s, Reason.source?_eq_some_iff.2 ⟨ho, hne⟩, Or.inl ⟨real, rfl⟩⟩
    · obtain ⟨m, hm⟩ := OrderedMap.exists_lookup?_of_mem_keys (isWrapper_iff.1 only).2
      have hne : w ≠ "" := (h.wrapper hm).2.1
      exact ⟨w, Reason.source?_eq_some_iff.2 ⟨ho, hne⟩, Or.inr ⟨only, himp⟩⟩
  · intro h
    obtain ⟨o, hs, hcase⟩ := h
    have ho := (Reason.source?_eq_some_iff.1 hs).1
    rcases hcase with ⟨_, hso⟩ | ⟨only, himp⟩
    · exact Or.inl (by rw [hso, ho])
    · exact Or.inr ⟨o, ho, only, himp⟩

/-- The imports fall into those before a reason of a module, those for this reason, and those after
    it. What comes after it stands for other sources, or has another target. -/
theorem Sound.importLinks_split {r : Registry} (h : r.Sound) {t : String} {m : Module}
    (hm : r.modules.lookup? t = some m) {before after : List Reason} {reason : Reason}
    (hreasons : m.reasons = before ++ reason :: after) :
    ∃ earlier later, r.importLinks = earlier ++ (r.linksOfReason t reason ++ later) ∧
      ∀ l ∈ later, l.target = t → ∃ next ∈ after, l.source ∈ r.sourcesOf next := by
  have hname := (h.real hm).1
  obtain ⟨ms, ms', hvalues⟩ := List.append_of_mem (OrderedMap.mem_values_of_lookup? hm)
  -- no later module has the name `t`
  have others : ∀ m' ∈ ms', m'.fileName ≠ t := by
    have hnodup := OrderedMap.nodup_keys r.modules
    rw [← h.map_fileName_values, hvalues, List.map_append, List.map_cons] at hnodup
    have htail := (List.nodup_cons.1 (List.nodup_append.1 hnodup).2.1).1
    intro m' hm' hsame
    exact htail (List.mem_map.2 ⟨m', hm', by rw [hsame, hname]⟩)
  refine ⟨ms.flatMap r.linksOfModule ++ before.flatMap (r.linksOfReason t),
    after.flatMap (r.linksOfReason t) ++ ms'.flatMap r.linksOfModule, ?_, ?_⟩
  · have hmodule : r.linksOfModule m = before.flatMap (r.linksOfReason t) ++
        (r.linksOfReason t reason ++ after.flatMap (r.linksOfReason t)) := by
      rw [linksOfModule, hname, hreasons, List.flatMap_append, List.flatMap_cons]
    rw [importLinks, hvalues, List.flatMap_append, List.flatMap_cons, hmodule]
    simp only [List.append_assoc]
  · intro l hl htarget
    rcases List.mem_append.1 hl with hl | hl
    · obtain ⟨next, hnext, hl⟩ := List.mem_flatMap.1 hl
      obtain ⟨s, hs, _, rfl⟩ := mem_linksOfReason_iff.1 hl
      exact ⟨next, hnext, hs⟩
    · obtain ⟨m', hm', hl⟩ := List.mem_flatMap.1 hl
      obtain ⟨next, _, hl⟩ := List.mem_flatMap.1 hl
      obtain ⟨s, _, _, rfl⟩ := mem_linksOfReason_iff.1 hl
      exact absurd htarget (others m' hm')

/-- The link from `s` to `t` carries the last reason of `t` that stands for `s`. -/
theorem Sound.lookup?_linksOf_last {r : Registry} (h : r.Sound) (chunks : List Chunk)
    {s t : String} {m : Module} (hm : r.modules.lookup? t = some m) (hne : s ≠ t)
    {before after : List Reason} {reason : Reason}
    (hreasons : m.reasons = before ++ reason :: after)
    (hs : s ∈ r.sourcesOf reason) (hlast : ∀ next ∈ after, s ∉ r.sourcesOf next) :
    (linksOf r chunks).lookup? (s, t) = some (some (reason.carriedFrom s)) := by
  obtain ⟨earlier, later, hsplit, hlater⟩ := h.importLinks_split hm hreasons
  -- the links for the reason are the block that decides about `(s, t)`
  rw [linksOf, hsplit, List.map_append, List.map_append]
  apply OrderedMap.lookup?_insertAll_of_block
  · rw [List.map_map, List.mem_map]
    exact ⟨⟨s, t, some (reason.carriedFrom s)⟩,
      mem_linksOfReason_iff.2 ⟨s, hs, hne, rfl⟩, rfl⟩
  · intro e he hk
    obtain ⟨l, hl, rfl⟩ := List.mem_map.1 he
    obtain ⟨s', _, _, rfl⟩ := mem_linksOfReason_iff.1 hl
    obtain ⟨rfl, _⟩ := Prod.ext_iff.1 hk
    rfl
  · rw [List.map_map, List.mem_map]
    intro h
    obtain ⟨l, hl, hk⟩ := h
    have hsrc : l.source = s := (Prod.ext_iff.1 hk).1
    obtain ⟨next, hnext, hmem⟩ := hlater l hl (Prod.ext_iff.1 hk).2
    rw [hsrc] at hmem
    exact hlast next hnext hmem

/-- So the reasons of the module say what a link carries: it is the last reason that stands for its
    source, as the link from there carries it. -/
theorem Sound.lookup?_linksOf_some_iff {r : Registry} (h : r.Sound) {chunks : List Chunk}
    {s t : String} {q : Reason} :
    (linksOf r chunks).lookup? (s, t) = some (some q) ↔
      ∃ m before reason after, r.modules.lookup? t = some m ∧ s ≠ t ∧
        m.reasons = before ++ reason :: after ∧ s ∈ r.sourcesOf reason ∧
        (∀ next ∈ after, s ∉ r.sourcesOf next) ∧ q = reason.carriedFrom s := by
  constructor
  · intro hq
    have himport : (s, t) ∈ r.importLinks.map GraphLink.ends :=
      exists_lookup?_linksOf_some_iff.1 ⟨q, hq⟩
    obtain ⟨m, hm, hne, hsource⟩ := (mem_ends_importLinks_iff h).1 himport
    obtain ⟨before, reason, after, hreasons, hs, hlast⟩ := exists_last m.reasons hsource
    have hcarried := h.lookup?_linksOf_last chunks hm hne hreasons hs hlast
    rw [hq] at hcarried
    exact ⟨m, before, reason, after, hm, hne, hreasons, hs, hlast,
      Option.some.inj (Option.some.inj hcarried)⟩
  · intro hlast
    obtain ⟨m, before, reason, after, hm, hne, hreasons, hs, hlast, rfl⟩ := hlast
    exact h.lookup?_linksOf_last chunks hm hne hreasons hs hlast

/-! ### The first place -/

theorem map_ends_linksOfModule (r : Registry) (m : Module) :
    (r.linksOfModule m).map GraphLink.ends =
      ((m.reasons.flatMap r.sourcesOf).filter fun s => s ≠ m.fileName).map fun s =>
        (s, m.fileName) := by
  rw [linksOfModule, List.map_flatMap, List.filter_flatMap, List.map_flatMap]
  congr 1
  funext reason
  rw [linksOfReason, List.map_map]
  rfl

/-- The imports come by target in the order of the registry, and for one target by the first reason
    that stands for the source. -/
theorem Sound.eraseDups_ends_importLinks {r : Registry} (h : r.Sound) :
    (r.importLinks.map GraphLink.ends).eraseDups =
      r.modules.entries.flatMap fun e =>
        ((e.2.reasons.flatMap r.sourcesOf).filter fun s => s ≠ e.1).eraseDups.map fun s =>
          (s, e.1) := by
  -- different modules have different names, so their links have different targets
  have apart : r.modules.values.Pairwise fun a b =>
      ∀ k ∈ (r.linksOfModule b).map GraphLink.ends,
        k ∉ (r.linksOfModule a).map GraphLink.ends := by
    have hnodup := OrderedMap.nodup_keys r.modules
    rw [← h.map_fileName_values, List.Nodup, List.pairwise_map] at hnodup
    refine hnodup.imp fun {a b} hne k hb ha => ?_
    rw [map_ends_linksOfModule] at ha hb
    obtain ⟨s, _, rfl⟩ := List.mem_map.1 hb
    obtain ⟨s', _, hk⟩ := List.mem_map.1 ha
    exact hne (Prod.ext_iff.1 hk).2
  have hinj : ∀ (t a b : String), ((a, t) : String × String) = (b, t) → a = b :=
    fun t a b hab => (Prod.ext_iff.1 hab).1
  rw [importLinks, List.map_flatMap, eraseDups_flatMap apart, OrderedMap.values, List.flatMap_map]
  apply List.flatMap_congr
  intro e he
  have hname := (h.real ((OrderedMap.mem_entries_iff r.modules e.1 e.2).1 he)).1
  rw [map_ends_linksOfModule, eraseDups_map (hinj _), hname]

end Registry

/-! ### In the finished graph -/

/-- The links of a store without a collision, in their order. -/
theorem linkList_eq {chunks : List Chunk} (free : ∀ id, ¬ Collides chunks id) {g : Store}
    (hlinks : g.links = linksOf (.build chunks) chunks) :
    g.linkList = (containment chunks).keys.map (fun k => ⟨k.1, k.2, none⟩) ++
      ((Registry.build chunks).importLinks.map GraphLink.ends).eraseDups.map fun k =>
        ⟨k.1, k.2, (g.links.lookup? k).getD none⟩ := by
  have hentries : g.links.entries = (containment chunks).keys.map (fun k => (k, none)) ++
      ((Registry.build chunks).importLinks.map GraphLink.ends).eraseDups.map fun k =>
        (k, (g.links.lookup? k).getD none) := by
    apply OrderedMap.entries_eq_of_keys
    · rw [hlinks, keys_linksOf free, List.map_append, List.map_map, List.map_map]
      simp [Function.comp_def]
    · intro e he
      rcases List.mem_append.1 he with he | he
      · obtain ⟨k, hk, rfl⟩ := List.mem_map.1 he
        rw [hlinks]
        exact lookup?_linksOf_of_containment free hk
      · obtain ⟨k, hk, rfl⟩ := List.mem_map.1 he
        obtain ⟨q, hq⟩ : ∃ q, (linksOf (.build chunks) chunks).lookup? k = some (some q) :=
          lookup?_linksOf_of_import (List.mem_eraseDups.1 hk)
        rw [← hlinks] at hq
        show g.links.lookup? k = some ((g.links.lookup? k).getD none)
        rw [hq]
        rfl
  rw [Store.linkList, hentries, List.map_append, List.map_map, List.map_map]
  rfl

/-- A reason as a link carries it comes from the source of the link. -/
theorem Reason.origin_carriedFrom {reason : Reason} {o s : String} (ho : reason.origin = some o) :
    (reason.carriedFrom s).origin = some s := by
  by_cases hos : o = s
  · subst hos
    rw [Reason.carriedFrom_self ho, ho]
  · rw [Reason.carriedFrom_of_ne ho hos]
    rfl

/-- **Last reason, first place.** An import carries the last reason of its target that stands for
    its source: unchanged if the reason names the source, and otherwise with the source in place of
    the wrapper that it names. The links to the contents come first. The imports come by target in
    the order of the registry, and for one target in the order in which its reasons first lead to
    the sources. -/
theorem import_carries_last_reason {chunks : List Chunk} {d : GraphData}
    (h : buildGraph chunks = .ok d) :
    (∀ l ∈ d.links, ∀ q, l.reason = some q →
      q.origin = some l.source ∧
      ∃ m before reason after,
        (Registry.build chunks).modules.lookup? l.target = some m ∧
        m.reasons = before ++ reason :: after ∧
        (Registry.build chunks).Supplies reason l.source ∧
        (∀ next ∈ after, ¬ (Registry.build chunks).Supplies next l.source) ∧
        (reason.origin = some l.source → q = reason) ∧
        ∀ w, reason.origin = some w → w ≠ l.source →
          q = ⟨some l.source, "via concatenated source module: " ++ w, reason.type⟩) ∧
    ∃ contents imports, d.links = contents ++ imports ∧
      (∀ l ∈ contents, l.reason = none) ∧ (∀ l ∈ imports, l.reason.isSome = true) ∧
      imports.map (fun l => (l.source, l.target)) =
        (Registry.build chunks).modules.entries.flatMap fun e =>
          ((e.2.reasons.flatMap (Registry.build chunks).sourcesOf).filter fun s =>
            s ≠ e.1).eraseDups.map fun s => (s, e.1) := by
  obtain ⟨free, g, rfl, -, hlinks⟩ := exists_store_of_buildGraph h
  have hsound := Registry.build_sound chunks
  constructor
  · intro l hl q hq
    have hlookup :
        (linksOf (.build chunks) chunks).lookup? (l.source, l.target) = some (some q) := by
      rw [← hlinks, ← hq]
      exact Store.mem_linkList_iff.1 hl
    have himport := (exists_lookup?_linksOf_iff free).1 ⟨q, hlookup⟩
    obtain ⟨m, hm, hne, hsource⟩ := (mem_ends_importLinks_iff hsound).1 himport
    obtain ⟨before, reason, after, hreasons, hs, hlast⟩ := exists_last m.reasons hsource
    have real := Registry.contains_of_mem_sourcesOf hs
    have hcarried : q = reason.carriedFrom l.source := by
      have hlook := hsound.lookup?_linksOf_last chunks hm hne hreasons hs hlast
      rw [hlookup] at hlook
      exact Option.some.inj (Option.some.inj hlook)
    obtain ⟨o, ho, _⟩ := Registry.mem_sourcesOf_iff.1 hs
    have horigin := (Reason.source?_eq_some_iff.1 ho).1
    refine ⟨by rw [hcarried, Reason.origin_carriedFrom horigin], m, before, reason, after, hm,
      hreasons, (hsound.supplies_iff real).2 hs, ?_, ?_, ?_⟩
    · intro next hnext hsup
      exact hlast next hnext ((hsound.supplies_iff real).1 hsup)
    · intro hself
      rw [hcarried, Reason.carriedFrom_self hself]
    · intro w hw hws
      exact hcarried.trans (Reason.carriedFrom_of_ne hw hws)
  · refine ⟨_, _, linkList_eq free hlinks, ?_, ?_, ?_⟩
    · intro l hl
      obtain ⟨k, _, rfl⟩ := List.mem_map.1 hl
      rfl
    · intro l hl
      obtain ⟨k, hk, rfl⟩ := List.mem_map.1 hl
      obtain ⟨q, hq⟩ : ∃ q, (linksOf (.build chunks) chunks).lookup? k = some (some q) :=
        lookup?_linksOf_of_import (List.mem_eraseDups.1 hk)
      rw [hlinks, hq]
      rfl
    · rw [List.map_map, ← hsound.eraseDups_ends_importLinks]
      exact List.map_id _

/-- In the small bundle `t.js` has two reasons that stand for `a.js`: one names it, and after that
    one names a wrapper. The link carries the second. -/
theorem import_carries_last_smallBundle :
    ∃ d, buildGraph smallBundle = .ok d ∧
      ∃ l ∈ d.links, l.source = "a.js" ∧ l.target = "t.js" ∧
        l.reason = some ⟨some "a.js", "via concatenated source module: w.js", none⟩ := by
  obtain ⟨d, hd⟩ := exists_buildGraph not_collides_smallBundle
  obtain ⟨hreason, contents, imports, hlinks, _, hsome, hends⟩ := import_carries_last_reason hd
  have himport : ("a.js", "t.js") ∈ imports.map (fun l => (l.source, l.target)) := by
    have hsource : "a.js" ∈ (Registry.build smallBundle).sourcesOf ⟨some "a.js", "", none⟩ :=
      Registry.mem_sourcesOf_iff.2
        ⟨"a.js", rfl, Or.inl ⟨contains_smallBundle_iff.2 (by decide), rfl⟩⟩
    rw [hends, modules_smallBundle]
    refine List.mem_flatMap.2 ⟨("t.js", .bare .normal "t.js" [] ["a.js", "w.js"]), by simp, ?_⟩
    refine List.mem_map.2 ⟨"a.js", List.mem_eraseDups.2 (List.mem_filter.2 ⟨?_, by decide⟩), rfl⟩
    exact List.mem_flatMap.2 ⟨_, List.mem_cons_self, hsource⟩
  obtain ⟨l, hl, hpair⟩ := List.mem_map.1 himport
  obtain ⟨hsrc, htgt⟩ := Prod.ext_iff.1 hpair
  obtain ⟨q, hq⟩ := Option.isSome_iff_exists.1 (hsome l hl)
  have hmem : l ∈ d.links := by
    rw [hlinks]
    exact List.mem_append_right _ hl
  obtain ⟨_, m, before, reason, after, hm, hreasons, _, hlast, _, hvia⟩ := hreason l hmem q hq
  rw [show l.target = "t.js" from htgt, ← OrderedMap.mem_entries_iff, modules_smallBundle] at hm
  obtain rfl : m = .bare .normal "t.js" [] ["a.js", "w.js"] := by simpa using hm
  -- the second reason stands for `a.js`, so nothing comes after the last one that does
  have second : (Registry.build smallBundle).Supplies ⟨some "w.js", "", none⟩ l.source := by
    rw [show l.source = "a.js" from hsrc]
    exact Or.inr
      ⟨"w.js", rfl, isWrapper_smallBundle_iff.2 (by decide), mem_importers_smallBundle⟩
  have hlater : (⟨some "w.js", "", none⟩ : Reason) ∉ after := fun hin => hlast _ hin second
  have hchosen : reason = ⟨some "w.js", "", none⟩ := by
    have hpair : [(⟨some "a.js", "", none⟩ : Reason), ⟨some "w.js", "", none⟩]
        = before ++ reason :: after := hreasons
    rcases before with _ | ⟨x, _ | ⟨y, ys⟩⟩
    · obtain ⟨_, htail⟩ := List.cons.inj hpair
      exact absurd (htail ▸ List.mem_singleton_self _) hlater
    · exact (List.cons.inj (List.cons.inj hpair).2).1.symm
    · have := congrArg List.length hpair
      simp at this
  refine ⟨d, hd, l, hmem, hsrc, htgt, ?_⟩
  rw [hq, hvia "w.js" (by rw [hchosen]) (by rw [show l.source = "a.js" from hsrc]; decide), hchosen,
    show l.source = "a.js" from hsrc]
  rfl

end BundleGraph
