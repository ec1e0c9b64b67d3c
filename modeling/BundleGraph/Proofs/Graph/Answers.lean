import BundleGraph.Proofs.Graph.Digraph
import BundleGraph.Proofs.Graph.IndexedStore
import BundleGraph.Proofs.Graph.Links

/-! # What an indexed store shows

    Whoever asks an indexed store gets the answers of the two maps that it stands
    for (`Represents.answers`). Numbers do not show: the library may list nodes
    and links in any order, sorting by number brings back the order of the maps.

    `lawful_plain` says that numbering one after the other keeps the promises of
    a library, and `answers_after` is about any calls to a new store.
-/

namespace BundleGraph.Graph

/-! ### Sorting by number -/

/-- Sorting by number gives the list in which the numbers grow. -/
theorem mergeSort_eq_of_growing {α : Type} {f : α → Nat} {xs ys : List α} (hp : xs.Perm ys)
    (hg : (ys.map f).Pairwise (· < ·)) : (xs.mergeSort fun a b => f a ≤ f b) = ys := by
  have hnodup : (ys.map f).Nodup := hg.imp Nat.ne_of_lt
  have hperm := (xs.mergeSort_perm fun a b => f a ≤ f b).trans hp
  refine hperm.eq_of_pairwise (fun a b ha hb hab hba => ?_) (List.pairwise_mergeSort ?_ ?_ xs) ?_
  -- members with one number are one, so the order leaves no choice
  · exact List.inj_on_of_nodup_map hnodup (hperm.subset ha) hb
      (Nat.le_antisymm (of_decide_eq_true hab) (of_decide_eq_true hba))
  · intro a b c hab hbc
    exact decide_eq_true (Nat.le_trans (of_decide_eq_true hab) (of_decide_eq_true hbc))
  · intro a b
    rw [Bool.or_eq_true, decide_eq_true_eq, decide_eq_true_eq]
    exact Nat.le_total _ _
  · exact (List.pairwise_map.1 hg).imp fun h => decide_eq_true (Nat.le_of_lt h)

theorem mapM_eq_some {α β : Type} {f : α → Option β} {xs : List α} {ys : List β}
    (h : xs.map f = ys.map some) : xs.mapM f = some ys := by
  induction xs generalizing ys with
  | nil =>
    obtain rfl := List.map_eq_nil_iff.1 h.symm
    rfl
  | cons x xs ih =>
    obtain ⟨y, ys, rfl, hx, hxs⟩ := List.map_eq_cons_iff.1 h.symm
    rw [List.mapM_cons, ← hx, ih hxs.symm]
    rfl

namespace IndexedStore

variable {G : Type} {lib : Digraph G (NodeKind × NodeData) GraphLink} {s : IndexedStore G}
  {g : Store}

/-! ### Links -/

namespace Represents

/-- The library has the links of the second map, and no other. -/
theorem links_perm (h : Represents lib s g) {ends : OrderedMap Nat (String × String)}
    (hends : Numbers lib s g ends) :
    ((lib.links s.graph).entries.map fun e => (e.1, some e.2)).Perm
      (ends.entries.map fun e => (e.1, numberedLink s g e.2)) := by
  have hnodup : ((lib.links s.graph).entries.map fun e => (e.1, some e.2)).Nodup :=
    .of_map Prod.fst (by rw [List.map_map]; exact (lib.links s.graph).nodup_keys)
  have hnodup' : (ends.entries.map fun e => (e.1, numberedLink s g e.2)).Nodup :=
    .of_map Prod.fst (by rw [List.map_map]; exact ends.nodup_keys)
  rw [List.perm_ext_iff_of_nodup hnodup hnodup']
  intro (e, o)
  rw [List.mem_map, List.mem_map]
  constructor
  · intro hin
    obtain ⟨⟨e, x⟩, hx, heq⟩ := hin
    cases heq
    rw [OrderedMap.mem_entries_iff, hends.link, Option.bind_eq_some_iff] at hx
    obtain ⟨p, hp, hlink⟩ := hx
    exact ⟨(e, p), (OrderedMap.mem_entries_iff _ _ _).2 hp, Prod.ext rfl hlink⟩
  · intro hin
    obtain ⟨⟨e, p⟩, hp, heq⟩ := hin
    cases heq
    rw [OrderedMap.mem_entries_iff] at hp
    obtain ⟨x, hx⟩ := h.exists_numberedLink (hends.mem_links hp)
    refine ⟨(e, x), (OrderedMap.mem_entries_iff _ _ _).2 ?_, Prod.ext rfl hx.symm⟩
    rw [hends.link, hp, Option.bind_some, hx]

/-- A link of the library is that of a pair of the second map. -/
theorem mem_link_values_iff (h : Represents lib s g) {x : Nat × Nat × GraphLink} :
    x ∈ (lib.links s.graph).values ↔ ∃ p ∈ g.links.keys, numberedLink s g p = some x := by
  obtain ⟨ends, hends⟩ := h.numbered
  have hvalues := ((h.links_perm hends).map Prod.snd).mem_iff (a := some x)
  rw [List.map_map, List.map_map] at hvalues
  rw [← hends.pairs, OrderedMap.values, OrderedMap.values]
  constructor
  · intro hx
    obtain ⟨e, he, rfl⟩ := List.mem_map.1 hx
    obtain ⟨e', he', heq⟩ := List.mem_map.1 (hvalues.1 (List.mem_map.2 ⟨e, he, rfl⟩))
    exact ⟨e'.2, List.mem_map_of_mem he', heq⟩
  · intro hx
    obtain ⟨_, hp, hx⟩ := hx
    obtain ⟨e', he', rfl⟩ := List.mem_map.1 hp
    obtain ⟨e, he, heq⟩ := List.mem_map.1 (hvalues.2 (List.mem_map.2 ⟨e', he', hx⟩))
    exact List.mem_map.2 ⟨e, he, Option.some.inj heq⟩

theorem link_of_numberedLink {p : String × String} {x : Nat × Nat × GraphLink}
    (hx : numberedLink s g p = some x) :
    s.numberOf.lookup? p.1 = some x.1 ∧ s.numberOf.lookup? p.2 = some x.2.1 ∧
      (g.links.lookup? p).map (GraphLink.mk p.1 p.2) = some x.2.2 := by
  simp only [numberedLink, Option.bind_eq_bind, Option.bind_eq_some_iff, Option.pure_def,
    Option.some.injEq] at hx
  obtain ⟨a, ha, b, hb, reason, hreason, rfl⟩ := hx
  exact ⟨ha, hb, by rw [hreason]; rfl⟩

theorem linkList (h : Represents lib s g) : s.linkList lib = g.linkList := by
  obtain ⟨ends, hends⟩ := h.numbered
  have hsorted : ((lib.links s.graph).entries.mergeSort fun e e' => e.1 ≤ e'.1).map
      (fun e => (e.1, some e.2)) = ends.entries.map fun e => (e.1, numberedLink s g e.2) := by
    have hgrowing : ((ends.entries.map fun e => (e.1, numberedLink s g e.2)).map
        Prod.fst).Pairwise (· < ·) := by
      rw [List.map_map]
      exact hends.growing
    rw [← mergeSort_eq_of_growing (h.links_perm hends) hgrowing]
    exact List.map_mergeSort fun _ _ _ _ => rfl
  -- every pair of the map has a numbered link, which carries the link itself
  apply List.map_injective_iff.2 (fun _ _ => Option.some.inj)
  calc (s.linkList lib).map some
      = (((lib.links s.graph).entries.mergeSort fun e e' => e.1 ≤ e'.1).map
          fun e => (e.1, some e.2)).map fun e => e.2.map fun x => x.2.2 := by
        rw [IndexedStore.linkList, List.map_map, List.map_map]
        rfl
    _ = ends.values.map fun p => (numberedLink s g p).map fun x => x.2.2 := by
        rw [hsorted, OrderedMap.values, List.map_map, List.map_map]
        rfl
    _ = g.links.keys.map fun p => (g.links.lookup? p).map (GraphLink.mk p.1 p.2) := by
        rw [hends.pairs]
        apply List.map_congr_left
        intro p hp
        obtain ⟨x, hx⟩ := h.exists_numberedLink hp
        rw [hx, (link_of_numberedLink hx).2.2]
        rfl
    _ = g.linkList.map some := by
        rw [OrderedMap.keys, Store.linkList, List.map_map, List.map_map]
        apply List.map_congr_left
        intro e he
        rw [Function.comp_apply, (OrderedMap.mem_entries_iff _ e.1 e.2).1 he]
        rfl

theorem linkCount (lawful : lib.Lawful) (h : Represents lib s g) :
    s.linkCount lib = g.linkCount := by
  have hlen := congrArg List.length h.linkList
  rw [IndexedStore.linkList, Store.linkList, List.length_map, List.length_map,
    List.length_mergeSort] at hlen
  exact (lawful.linkCount_eq _).trans hlen

theorem hasLink_of_numbers (lawful : lib.Lawful) (h : Represents lib s g) {source target : String}
    {a b : Nat} (ha : s.numberOf.lookup? source = some a)
    (hb : s.numberOf.lookup? target = some b) :
    lib.hasLink s.graph a b = true ↔ (source, target) ∈ g.links.keys := by
  rw [lawful.hasLink_iff]
  constructor
  · intro hlink
    obtain ⟨e, v, hv⟩ := hlink
    obtain ⟨p, hp, hx⟩ := h.mem_link_values_iff.1 (OrderedMap.mem_values_of_lookup? hv)
    exact h.eq_of_numberedLink ha hb hx ▸ hp
  · intro hp
    obtain ⟨⟨a', b', l⟩, hx⟩ := h.exists_numberedLink hp
    obtain ⟨ha', hb', _⟩ := link_of_numberedLink hx
    obtain rfl := Option.some.inj (ha.symm.trans ha')
    obtain rfl := Option.some.inj (hb.symm.trans hb')
    obtain ⟨⟨e, _⟩, he, rfl⟩ := List.mem_map.1 (h.mem_link_values_iff.2 ⟨_, hp, hx⟩)
    exact ⟨e, l, (OrderedMap.mem_entries_iff _ _ _).1 he⟩

theorem hasLink (lawful : lib.Lawful) (h : Represents lib s g) (source target : String) :
    s.hasLink lib source target = g.hasLink source target := by
  rw [Bool.eq_iff_iff, Store.hasLink, OrderedMap.contains_iff, IndexedStore.hasLink]
  split
  · rename_i a b ha hb
    exact h.hasLink_of_numbers lawful ha hb
  · rename_i hnone
    -- the ends of a link are nodes, and nodes have numbers
    refine ⟨nofun, fun hp => ?_⟩
    obtain ⟨a, ha⟩ := h.exists_number (g.closed _ hp).1
    obtain ⟨b, hb⟩ := h.exists_number (g.closed _ hp).2
    exact (hnone a b ha hb).elim

theorem link? (lawful : lib.Lawful) (h : Represents lib s g) (source target : String) :
    s.link? lib source target = g.link? source target := by
  rw [IndexedStore.link?, h.hasLink lawful, Store.hasLink]
  by_cases hp : (source, target) ∈ g.links.keys
  · obtain ⟨⟨a, b, l⟩, hx⟩ := h.exists_numberedLink hp
    obtain ⟨ha, hb, hl⟩ := link_of_numberedLink hx
    obtain ⟨⟨e, _⟩, he, rfl⟩ := List.mem_map.1 (h.mem_link_values_iff.2 ⟨_, hp, hx⟩)
    have hlink := lawful.link_eq _ _ _ _ _ ((OrderedMap.mem_entries_iff _ _ _).1 he)
    rw [if_pos ((OrderedMap.contains_iff _ _).2 hp), ha, hb, Store.link?, hl]
    exact hlink
  · rw [if_neg (mt (OrderedMap.contains_iff _ _).1 hp), Store.link?,
      (OrderedMap.lookup?_eq_none_iff _ _).2 hp]
    rfl

/-! ### Nodes -/

/-- The library has the numbers that are kept, and no other. -/
theorem numbers_perm (lawful : lib.Lawful) (h : Represents lib s g) :
    (lib.numbers s.graph).Perm s.idAt.keys := by
  rw [List.perm_ext_iff_of_nodup (lawful.nodup_numbers _) s.idAt.nodup_keys]
  intro i
  rw [lawful.mem_numbers, h.isSome_node_iff]

theorem sorted_numbers (lawful : lib.Lawful) (h : Represents lib s g) :
    ((lib.numbers s.graph).mergeSort fun i j => i ≤ j) = s.idAt.keys :=
  mergeSort_eq_of_growing (f := id) (h.numbers_perm lawful) (by rw [List.map_id]; exact h.growing)

theorem nodeCount (lawful : lib.Lawful) (h : Represents lib s g) :
    s.nodeCount lib = g.nodeCount := by
  have hids := congrArg List.length h.ids
  rw [OrderedMap.values, List.length_map, OrderedMap.length_keys] at hids
  rw [IndexedStore.nodeCount, lawful.nodeCount_eq, (h.numbers_perm lawful).length_eq,
    OrderedMap.length_keys]
  exact hids

/-- The node of a number is that of its id. -/
theorem nodeAt_eq (h : Represents lib s g) {i : Nat} {id : String}
    (hi : s.idAt.lookup? i = some id) :
    s.nodeAt lib i = (g.nodes.lookup? id).map fun d => ⟨id, d.kind, d, g.targets id⟩ := by
  rw [nodeAt, h.node, hi, Option.bind_some, h.linkList, Store.targets_eq]
  cases g.nodes.lookup? id <;> rfl

theorem data? (lawful : lib.Lawful) (h : Represents lib s g) :
    s.data? lib = some g.toGraphData := by
  have hnodes : s.idAt.keys.map (s.nodeAt lib) = g.toGraphData.nodes.map some := by
    calc s.idAt.keys.map (s.nodeAt lib)
        = s.idAt.values.map fun id =>
            (g.nodes.lookup? id).map fun d => ⟨id, d.kind, d, g.targets id⟩ := by
          rw [OrderedMap.keys, OrderedMap.values, List.map_map, List.map_map]
          apply List.map_congr_left
          intro e he
          exact h.nodeAt_eq ((OrderedMap.mem_entries_iff _ e.1 e.2).1 he)
      _ = g.toGraphData.nodes.map some := by
          rw [h.ids, OrderedMap.keys, Store.toGraphData, List.map_map, List.map_map]
          apply List.map_congr_left
          intro e he
          rw [Function.comp_apply, (OrderedMap.mem_entries_iff _ e.1 e.2).1 he]
          rfl
  rw [IndexedStore.data?, h.sorted_numbers lawful, mapM_eq_some hnodes, h.linkList]
  rfl

/-! ### Counts -/

/-- Kinds are counted as the records of the first map have them. -/
theorem nodesByKind (h : Represents lib s g) :
    s.idsByKind.entries.map (fun e => (e.1.name, e.2.length)) =
      tally (g.nodes.values.map fun d => d.kind.name) := by
  have hname : ∀ k k' : NodeKind, k.name = k'.name → k = k' := by
    intro k k' hk
    cases k <;> cases k' <;> first | rfl | (revert hk; decide)
  have hkinds : (g.nodes.values.map fun d => d.kind.name).eraseDups =
      s.idsByKind.keys.map NodeKind.name := by
    rw [h.kinds, ← eraseDups_map hname, List.map_map]
    rfl
  rw [tally, firstOccurrences_eq, hkinds, OrderedMap.keys, List.map_map, List.map_map]
  apply List.map_congr_left
  intro e he
  have hids : e.2 = g.idsOfKind e.1 := by
    rw [← h.members, idsOfKind, (OrderedMap.mem_entries_iff _ e.1 e.2).1 he]
    rfl
  refine Prod.ext rfl ?_
  rw [hids, Store.idsOfKind, List.length_map, ← List.countP_eq_length_filter, Function.comp_apply,
    Function.comp_apply, OrderedMap.values, List.map_map, List.count, List.countP_map]
  apply List.countP_congr
  intro x _
  have : x.2.kind.name = e.1.name ↔ x.2.kind = e.1 := ⟨hname _ _, fun hk => hk ▸ rfl⟩
  simp [this]

/-- The library has no link with an end at a number if the map has none with that end at its id. -/
theorem countP_end_eq_zero_iff (h : Represents lib s g) {number : Nat × Nat × GraphLink → Nat}
    {side : String × String → String}
    (hside : ∀ {p x}, numberedLink s g p = some x → s.numberOf.lookup? (side p) = some (number x))
    {i : Nat} {id : String} (hi : s.numberOf.lookup? id = some i) :
    ((lib.links s.graph).values.countP fun x => number x = i) = 0 ↔
      (g.links.keys.filter fun p => side p = id) = [] := by
  rw [List.countP_eq_zero, List.filter_eq_nil_iff]
  constructor
  · intro hnone p hp hid
    obtain ⟨x, hx⟩ := h.exists_numberedLink hp
    have hnumber := hside hx
    rw [of_decide_eq_true hid, hi] at hnumber
    exact hnone x (h.mem_link_values_iff.2 ⟨p, hp, hx⟩)
      (decide_eq_true (Option.some.inj hnumber).symm)
  · intro hnone x hin hxi
    obtain ⟨p, hp, hx⟩ := h.mem_link_values_iff.1 hin
    have hnumber := hside hx
    rw [of_decide_eq_true hxi] at hnumber
    exact hnone p hp (decide_eq_true (h.numberOf_inj hnumber hi))

theorem inDegree_eq_zero_iff (lawful : lib.Lawful) (h : Represents lib s g) {i : Nat} {id : String}
    (hi : s.numberOf.lookup? id = some i) : lib.inDegree s.graph i = 0 ↔ g.sources id = [] := by
  rw [lawful.inDegree_eq, Store.sources, List.map_eq_nil_iff]
  exact h.countP_end_eq_zero_iff (fun hx => (link_of_numberedLink hx).2.1) hi

theorem outDegree_eq_zero_iff (lawful : lib.Lawful) (h : Represents lib s g) {i : Nat} {id : String}
    (hi : s.numberOf.lookup? id = some i) : lib.outDegree s.graph i = 0 ↔ g.targets id = [] := by
  rw [lawful.outDegree_eq, Store.targets, List.map_eq_nil_iff]
  exact h.countP_end_eq_zero_iff (fun hx => (link_of_numberedLink hx).1) hi

theorem orphans (lawful : lib.Lawful) (h : Represents lib s g) :
    ((lib.numbers s.graph).countP fun i =>
      decide (lib.inDegree s.graph i = 0 ∧ lib.outDegree s.graph i = 0)) = g.orphans.length := by
  rw [(h.numbers_perm lawful).countP_eq, Store.orphans, ← h.ids, ← List.countP_eq_length_filter,
    OrderedMap.keys, OrderedMap.values, List.countP_map, List.countP_map]
  apply List.countP_congr
  intro e he
  have hi := h.numberOf_iff.2 ((OrderedMap.mem_entries_iff _ e.1 e.2).1 he)
  simp [h.inDegree_eq_zero_iff lawful hi, h.outDegree_eq_zero_iff lawful hi, and_comm]

/-- An indexed store shows what the two maps show that it stands for. -/
theorem answers (lawful : lib.Lawful) (h : Represents lib s g) : s.answers lib = g.answers := by
  have hstats : s.stats lib = g.stats := by
    rw [IndexedStore.stats, Store.stats, h.nodeCount lawful, h.linkCount lawful, h.nodesByKind,
      h.orphans lawful]
  rw [IndexedStore.answers, Store.answers, h.nodeCount lawful, h.linkCount lawful,
    funext fun a => funext (h.hasLink lawful a), funext fun a => funext (h.link? lawful a),
    funext h.members, h.linkList, hstats, h.data? lawful]

end Represents

end IndexedStore

/-! ### Any calls -/

section

variable {G : Type} {lib : Digraph G (NodeKind × NodeData) GraphLink}

/-- A call is refused exactly if it ends with a broken rule, it ends in no other way early, and a
    call that is refused changes nothing. -/
theorem IndexedStore.Represents.call_cases (lawful : lib.Lawful) {s : IndexedStore G} {g : Store}
    (h : IndexedStore.Represents lib s g) (c : Call) :
    (c.Refused g ∧ ∃ v, s.call lib c = (.error (.violation v), s)) ∨
      (¬ c.Refused g ∧ (s.call lib c).1 = .ok ()) := by
  have hcall := h.call lawful c
  rw [← c.apply_fails_iff]
  cases happly : c.apply g with
  | error v =>
    rw [happly] at hcall
    exact Or.inl ⟨⟨v, rfl⟩, v, Prod.ext hcall.1 hcall.2⟩
  | ok g' =>
    rw [happly] at hcall
    exact Or.inr ⟨nofun, hcall.1⟩

/-- **Two maps.** After any calls to a new store that is kept by number, it shows what two maps
    show: one of nodes, with the first record of each id that was accepted, and one of links, with
    the last reason of each pair in the place of the first. A further call breaks a rule exactly if
    it makes a wrapper a node, lets an id stand for two kinds of records, or links what is no node;
    then the store is as before, and otherwise the call goes through. Each node of the finished
    graph depends on the targets of its links, in their order and each once, and the ids of the two
    kinds share out the nodes. -/
theorem exists_maps_after_calls (lawful : lib.Lawful) (calls : List Call) :
    let s := (IndexedStore.empty lib).after lib calls
    let accepted := (IndexedStore.empty lib).accepted lib calls
    ∃ g : Store,
      g.nodes = .ofListFirst (accepted.filterMap Call.node?) ∧
      g.links = .ofListLast (accepted.filterMap Call.link?) ∧
      s.answers lib = g.answers ∧
      (∀ c, ((∃ v, (s.call lib c).1 = .error (.violation v)) ↔ c.Refused g) ∧
        ((s.call lib c).1 = .ok () ↔ ¬ c.Refused g) ∧
        (c.Refused g → (s.call lib c).2 = s ∧ (s.call lib c).2.answers lib = g.answers)) ∧
      ∃ d, s.data? lib = some d ∧
        (∀ n ∈ d.nodes, n.dependencies =
            (d.links.filter fun l => l.source = n.id).map GraphLink.target ∧
          n.dependencies.Nodup) ∧
        (∀ kind, s.idsOfKind kind = (d.nodes.filter fun n => n.kind = kind).map GraphNode.id) ∧
        (s.idsOfKind .chunk ++ s.idsOfKind .module).Perm (d.nodes.map GraphNode.id) ∧
        (d.nodes.map GraphNode.id).Nodup := by
  intro s accepted
  obtain ⟨g, hrep, hn, hl⟩ := (IndexedStore.represents_empty lawful).after lawful calls
  have hids : g.toGraphData.nodes.map GraphNode.id = g.nodes.keys := by
    rw [Store.toGraphData, List.map_map]
    rfl
  refine ⟨g, hn, hl, hrep.answers lawful, fun c => ?_, g.toGraphData, hrep.data? lawful, ?_, ?_, ?_,
    hids ▸ g.nodes.nodup_keys⟩
  · rcases hrep.call_cases lawful c with ⟨hrefused, v, hcall⟩ | ⟨hfree, hcall⟩
    · rw [hcall]
      exact ⟨iff_of_true ⟨v, rfl⟩ hrefused, iff_of_false nofun (not_not.2 hrefused),
        fun _ => ⟨rfl, hrep.answers lawful⟩⟩
    · rw [hcall]
      exact ⟨iff_of_false nofun hfree, iff_of_true rfl hfree, fun h => absurd h hfree⟩
  · intro n hn
    obtain ⟨e, _, rfl⟩ := List.mem_map.1 hn
    exact ⟨g.targets_eq e.1, g.nodup_targets e.1⟩
  · intro kind
    rw [hrep.members, Store.idsOfKind, Store.toGraphData, List.filter_map, List.map_map]
    rfl
  · rw [hrep.members, hrep.members, hids]
    exact g.idsOfKind_perm

end

/-- Calls with every way to fail among them: a chunk that has the name of a module, a wrapper, and a
    link to what is no node. -/
def mixedCalls : List Call := [
  .chunk ⟨"main", .sync, .zero, []⟩,
  .module (.bare .normal "a.js" [] []),
  .link "main" "a.js" none,
  .chunk ⟨"a.js", .lazy, .zero, []⟩,
  .module (.bare .concatenated "w.js" [] []),
  .link "a.js" "a.js" (some ⟨"a.js", "", none⟩),
  .link "a.js" "b.js" none,
  .chunk ⟨"main", .lazy, .zero, []⟩,
  .link "main" "a.js" (some ⟨"main", "again", none⟩)]

/-- Of these calls two nodes and two links stay, the first link with its last reason. -/
theorem maps_after_mixedCalls :
    (Digraph.plain (NodeKind × NodeData) GraphLink).Lawful ∧
    ∃ g : Store,
      g.nodes.keys = ["main", "a.js"] ∧
      g.links.entries = [(("main", "a.js"), some ⟨"main", "again", none⟩),
        (("a.js", "a.js"), some ⟨"a.js", "", none⟩)] ∧
      ((IndexedStore.empty (Digraph.plain _ _)).after (Digraph.plain _ _) mixedCalls).answers
        (Digraph.plain _ _) = g.answers := by
  have lawful := Digraph.lawful_plain (NodeKind × NodeData) GraphLink
  obtain ⟨g, hn, hl, hanswers, _⟩ := exists_maps_after_calls lawful mixedCalls
  refine ⟨lawful, g, ?_, ?_, hanswers⟩
  · rw [hn]
    rfl
  · rw [hl]
    rfl

end BundleGraph.Graph
