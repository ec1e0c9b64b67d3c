import BundleGraph.Graph.Store
import BundleGraph.Proofs.Graph.Answers
import BundleGraph.Proofs.Graph.Nodes

/-! # Reachability

    A library of graphs follows links from number to number; an indexed store is
    asked by id, and answers with ids. Its answers are right because ids and
    numbers lead back to each other: a path of numbers is a path of ids
    (`Represents.transGen_joins_iff`), whatever cycles it runs through.

    That answers only grow, and that a link which is there already changes none,
    then follows from what a call leaves of the links (`Represents.exists_call`).
-/

namespace BundleGraph.Graph

open Relation (TransGen)

/-! ### Paths of ids -/

namespace Store

variable {g : Store} {a b : String}

/-- A path of one or more links. -/
def Path (g : Store) : String → String → Prop := TransGen fun a b => (a, b) ∈ g.links.keys

/-- Both ends of a path are nodes. -/
theorem Path.mem_nodes (h : g.Path a b) : a ∈ g.nodes.keys ∧ b ∈ g.nodes.keys := by
  obtain ⟨_, hfirst, _⟩ := TransGen.head'_iff.1 h
  obtain ⟨_, _, hlast⟩ := TransGen.tail'_iff.1 h
  exact ⟨(g.closed _ hfirst).1, (g.closed _ hlast).2⟩

theorem Path.mono {g' : Store} (hlinks : g.links.keys ⊆ g'.links.keys) (h : g.Path a b) :
    g'.Path a b :=
  TransGen.mono (fun _ _ hlink => hlinks hlink) _ _ h

end Store

/-! ### Questions by id -/

namespace IndexedStore

variable {G : Type} (lib : Digraph G (NodeKind × NodeData) GraphLink) (s : IndexedStore G)

/-- The id stands for a node. -/
def IsNode (id : String) : Prop := ∃ kind, id ∈ s.idsOfKind kind

/-- `s.Leads lib a b`: one or more links lead from `a` to `b`. -/
def Leads : String → String → Prop := TransGen fun a b => s.hasLink lib a b = true

/-- `s.IsDescendant lib a b`: asked for what lies on outgoing paths of `a`, the store names `b`. -/
def IsDescendant (a b : String) : Prop := ∃ ids, s.descendants? lib a = some ids ∧ b ∈ ids

/-- `s.IsAncestor lib a b`: asked for what `a` can be reached from, the store names `b`. -/
def IsAncestor (a b : String) : Prop := ∃ ids, s.ancestors? lib a = some ids ∧ b ∈ ids

namespace Represents

variable {lib : Digraph G (NodeKind × NodeData) GraphLink} {s : IndexedStore G} {g : Store}
  {a b : String} {i j : Nat}

theorem isNode_iff (h : Represents lib s g) : s.IsNode a ↔ a ∈ g.nodes.keys := by
  rw [← g.idsOfKind_perm.mem_iff, List.mem_append, ← h.members, ← h.members]
  constructor
  · intro hnode
    obtain ⟨kind, hin⟩ := hnode
    cases kind with
    | chunk => exact Or.inl hin
    | module => exact Or.inr hin
  · intro hin
    rcases hin with hin | hin
    · exact ⟨_, hin⟩
    · exact ⟨_, hin⟩

theorem leads_iff (lawful : lib.Lawful) (h : Represents lib s g) :
    s.Leads lib a b ↔ g.Path a b := by
  simp only [Leads, h.hasLink lawful, Store.hasLink, OrderedMap.contains_iff, Store.Path]

/-! ### Paths of numbers -/

theorem exists_id (h : Represents lib s g) (hi : (lib.node? s.graph i).isSome = true) :
    ∃ id, s.numberOf.lookup? id = some i := by
  obtain ⟨id, hid⟩ := OrderedMap.exists_lookup?_of_mem_keys (h.isSome_node_iff.1 hi)
  exact ⟨id, h.numberOf_iff.2 hid⟩

theorem isSome_node (h : Represents lib s g) (hi : s.numberOf.lookup? a = some i) :
    (lib.node? s.graph i).isSome = true :=
  h.isSome_node_iff.2 (OrderedMap.mem_keys_of_lookup? (h.numberOf_iff.1 hi))

theorem joins_iff (lawful : lib.Lawful) (h : Represents lib s g)
    (ha : s.numberOf.lookup? a = some i) (hb : s.numberOf.lookup? b = some j) :
    lib.Joins s.graph i j ↔ (a, b) ∈ g.links.keys := by
  rw [Digraph.Joins, h.hasLink_of_numbers lawful ha hb]
  exact ⟨fun hlink => hlink.2.2, fun hlink => ⟨h.isSome_node ha, h.isSome_node hb, hlink⟩⟩

/-- A path between numbers is one between their ids. -/
theorem transGen_joins_iff (lawful : lib.Lawful) (h : Represents lib s g)
    (ha : s.numberOf.lookup? a = some i) (hb : s.numberOf.lookup? b = some j) :
    TransGen (lib.Joins s.graph) i j ↔ g.Path a b := by
  constructor
  · intro hpath
    induction hpath generalizing b with
    | single hlink => exact .single ((h.joins_iff lawful ha hb).1 hlink)
    | tail _ hlink ih =>
      -- the number before the last one is that of an id
      obtain ⟨c, hc⟩ := h.exists_id hlink.1
      exact (ih hc).tail ((h.joins_iff lawful hc hb).1 hlink)
  · intro hpath
    induction hpath using TransGen.head_induction_on generalizing i with
    | single hlink => exact .single ((h.joins_iff lawful ha hb).2 hlink)
    | head hlink _ ih =>
      obtain ⟨k, hk⟩ := h.exists_number (g.closed _ hlink).2
      exact .head ((h.joins_iff lawful ha hk).2 hlink) (ih hk)

/-! ### Answers -/

/-- Numbers of nodes can be followed to their ids. -/
theorem exists_mapM_idAt (h : Represents lib s g) {numbers : List Nat}
    (hnodes : ∀ i ∈ numbers, (lib.node? s.graph i).isSome = true) :
    ∃ ids, numbers.mapM s.idAt.lookup? = some ids ∧
      ∀ b, b ∈ ids ↔ ∃ i ∈ numbers, s.numberOf.lookup? b = some i := by
  refine ⟨numbers.filterMap s.idAt.lookup?, mapM_eq_some ?_, fun b => ?_⟩
  · rw [List.map_filterMap_some_eq_filter_map_isSome, List.filter_eq_self.2]
    intro o ho
    obtain ⟨i, hi, rfl⟩ := List.mem_map.1 ho
    obtain ⟨id, hid⟩ := h.exists_id (hnodes i hi)
    rw [h.numberOf_iff.1 hid]
    rfl
  · simp only [List.mem_filterMap, h.numberOf_iff]

theorem ne_iff (h : Represents lib s g) (ha : s.numberOf.lookup? a = some i)
    (hb : s.numberOf.lookup? b = some j) : j ≠ i ↔ b ≠ a := by
  refine not_congr ⟨fun heq => h.numberOf_inj hb (heq ▸ ha), fun heq => ?_⟩
  rw [heq, ha] at hb
  exact (Option.some.inj hb).symm

/-- A question that the library answers for numbers is answered for every id, if what it asks of
    the numbers of two ids is what is asked of the ids. -/
theorem exists_answer (h : Represents lib s g) {follow : Nat → List Nat} {R : Nat → Nat → Prop}
    {P : String → String → Prop}
    (hfollow : ∀ i j, (lib.node? s.graph i).isSome = true → (j ∈ follow i ↔ j ≠ i ∧ R i j))
    (hnode : ∀ i j, R i j → (lib.node? s.graph j).isSome = true)
    (hiff : ∀ {a b i j}, s.numberOf.lookup? a = some i → s.numberOf.lookup? b = some j →
      (R i j ↔ P a b))
    (hids : ∀ {a b}, P a b → a ∈ g.nodes.keys ∧ b ∈ g.nodes.keys) (a : String) :
    ∃ ids, (match s.numberOf.lookup? a with
        | some i => (follow i).mapM s.idAt.lookup?
        | none => some []) = some ids ∧
      ∀ b, b ∈ ids ↔ b ≠ a ∧ P a b := by
  cases ha : s.numberOf.lookup? a with
  | none =>
    -- what leads anywhere is a node, and has a number
    refine ⟨[], rfl, fun b => iff_of_false (by simp) fun hb => ?_⟩
    obtain ⟨i, hi⟩ := h.exists_number (hids hb.2).1
    rw [ha] at hi
    cases hi
  | some i =>
    have hfollow := fun j => hfollow i j (h.isSome_node ha)
    obtain ⟨ids, hanswer, hmem⟩ := h.exists_mapM_idAt fun j hj => hnode i j ((hfollow j).1 hj).2
    refine ⟨ids, hanswer, fun b => ?_⟩
    rw [hmem]
    constructor
    · intro hb
      obtain ⟨j, hj, hb⟩ := hb
      obtain ⟨hne, hR⟩ := (hfollow j).1 hj
      exact ⟨(h.ne_iff ha hb).1 hne, (hiff ha hb).1 hR⟩
    · intro hb
      obtain ⟨hne, hP⟩ := hb
      obtain ⟨j, hb⟩ := h.exists_number (hids hP).2
      exact ⟨j, (hfollow j).2 ⟨(h.ne_iff ha hb).2 hne, (hiff ha hb).2 hP⟩, hb⟩

/-- It is answered what lies on outgoing paths. -/
theorem exists_descendants (lawful : lib.Lawful) (traversing : lib.Traversing)
    (h : Represents lib s g) (a : String) :
    ∃ ids, s.descendants? lib a = some ids ∧ ∀ b, b ∈ ids ↔ b ≠ a ∧ g.Path a b := by
  refine h.exists_answer (traversing.mem_descendants s.graph) (fun i j hpath => ?_)
    (h.transGen_joins_iff lawful) Store.Path.mem_nodes a
  obtain ⟨_, _, hlast⟩ := TransGen.tail'_iff.1 hpath
  exact hlast.2.1

/-- It is answered what an id can be reached from. -/
theorem exists_ancestors (lawful : lib.Lawful) (traversing : lib.Traversing)
    (h : Represents lib s g) (a : String) :
    ∃ ids, s.ancestors? lib a = some ids ∧ ∀ b, b ∈ ids ↔ b ≠ a ∧ g.Path b a := by
  refine h.exists_answer (traversing.mem_ancestors s.graph) (fun i j hpath => ?_)
    (fun ha hb => h.transGen_joins_iff lawful hb ha) (fun hpath => hpath.mem_nodes.symm) a
  obtain ⟨_, hfirst, _⟩ := TransGen.head'_iff.1 hpath
  exact hfirst.1

theorem isDescendant_iff (lawful : lib.Lawful) (traversing : lib.Traversing)
    (h : Represents lib s g) : s.IsDescendant lib a b ↔ b ≠ a ∧ g.Path a b := by
  obtain ⟨ids, hanswer, hmem⟩ := h.exists_descendants lawful traversing a
  rw [IsDescendant, hanswer, ← hmem]
  simp

theorem isAncestor_iff (lawful : lib.Lawful) (traversing : lib.Traversing)
    (h : Represents lib s g) : s.IsAncestor lib a b ↔ b ≠ a ∧ g.Path b a := by
  obtain ⟨ids, hanswer, hmem⟩ := h.exists_ancestors lawful traversing a
  rw [IsAncestor, hanswer, ← hmem]
  simp

/-! ### One call more -/

/-- After a call the store stands for two maps with the links that were there before, and at most
    one more, which the call asks for and which was not there. -/
theorem exists_call (lawful : lib.Lawful) (h : Represents lib s g) (c : Call) :
    ∃ g', Represents lib (s.call lib c).2 g' ∧
      (g'.links.keys = g.links.keys ∨
        ∃ p reason, c.link? = some (p, reason) ∧ p ∉ g.links.keys ∧
          g'.links.keys = g.links.keys ++ [p]) := by
  have hcall := h.call lawful c
  cases happly : c.apply g with
  | error v =>
    rw [happly] at hcall
    exact ⟨g, hcall.2.symm ▸ h, Or.inl rfl⟩
  | ok g' =>
    rw [happly] at hcall
    refine ⟨g', hcall.2, ?_⟩
    rw [(Call.spec_of_apply happly).2]
    cases hlink : c.link? with
    | none => exact Or.inl rfl
    | some l =>
      obtain ⟨p, reason⟩ := l
      by_cases hp : p ∈ g.links.keys
      · exact Or.inl ((OrderedMap.keys_insert _ _ _).trans (if_pos hp))
      · exact Or.inr ⟨p, reason, rfl, hp, (OrderedMap.keys_insert _ _ _).trans (if_neg hp)⟩

theorem links_subset_call (lawful : lib.Lawful) (h : Represents lib s g) (c : Call) :
    ∃ g', Represents lib (s.call lib c).2 g' ∧ g.links.keys ⊆ g'.links.keys := by
  obtain ⟨g', hrep, hsame | ⟨p, _, _, _, hmore⟩⟩ := h.exists_call lawful c
  · exact ⟨g', hrep, by rw [hsame]; exact List.Subset.refl _⟩
  · exact ⟨g', hrep, by rw [hmore]; exact List.subset_append_left _ _⟩

/-- A link that is there already changes no path. -/
theorem links_eq_call (lawful : lib.Lawful) (h : Represents lib s g) {source target : String}
    (hold : s.hasLink lib source target = true) (reason : Option Reason) :
    ∃ g', Represents lib (s.call lib (.link source target reason)).2 g' ∧
      g'.links.keys = g.links.keys := by
  rw [h.hasLink lawful, Store.hasLink, OrderedMap.contains_iff] at hold
  obtain ⟨g', hrep, hsame | ⟨p, _, hlink, hnew, _⟩⟩ :=
    h.exists_call lawful (.link source target reason)
  · exact ⟨g', hrep, hsame⟩
  · cases hlink
    exact absurd hold hnew

end Represents

end IndexedStore

/-! ### Any calls -/

section

variable {G : Type} {lib : Digraph G (NodeKind × NodeData) GraphLink}

/-- **Reachability.** After any calls to a new store that is kept by number, both questions are
    answered for every id: with the other nodes to which links lead from it, and with those from
    which links lead to it. Each answer is the other one turned round. An id that is no node gets
    none, and no id is in its own answer, whatever cycles there are. A further call takes nothing
    out of an answer, and a link between two nodes that are linked already changes none. -/
theorem reachability_after_calls (lawful : lib.Lawful) (traversing : lib.Traversing)
    (calls : List Call) :
    let s := (IndexedStore.empty lib).after lib calls
    (∀ a, ∃ below above, s.descendants? lib a = some below ∧ s.ancestors? lib a = some above ∧
      (∀ b, b ∈ below ↔ b ≠ a ∧ s.IsNode a ∧ s.IsNode b ∧ s.Leads lib a b) ∧
      (∀ b, b ∈ above ↔ b ≠ a ∧ s.IsNode a ∧ s.IsNode b ∧ s.Leads lib b a) ∧
      (¬ s.IsNode a → below = [] ∧ above = []) ∧ a ∉ below ∧ a ∉ above) ∧
    (∀ a b, s.IsDescendant lib a b ↔ s.IsAncestor lib b a) ∧
    (∀ c a b,
      (s.IsDescendant lib a b → (s.call lib c).2.IsDescendant lib a b) ∧
        (s.IsAncestor lib a b → (s.call lib c).2.IsAncestor lib a b)) ∧
    ∀ source target reason, s.hasLink lib source target = true →
      let s' := (s.call lib (.link source target reason)).2
      ∀ a b, (s'.IsDescendant lib a b ↔ s.IsDescendant lib a b) ∧
        (s'.IsAncestor lib a b ↔ s.IsAncestor lib a b) := by
  intro s
  obtain ⟨g, hrep⟩ : ∃ g, IndexedStore.Represents lib s g := by
    obtain ⟨g, hrep, _, _⟩ := (IndexedStore.represents_empty lawful).after lawful calls
    exact ⟨g, hrep⟩
  have hdescendant {s' : IndexedStore G} {g' : Store} (h : IndexedStore.Represents lib s' g')
      (a b : String) := h.isDescendant_iff (a := a) (b := b) lawful traversing
  have hancestor {s' : IndexedStore G} {g' : Store} (h : IndexedStore.Represents lib s' g')
      (a b : String) := h.isAncestor_iff (a := a) (b := b) lawful traversing
  refine ⟨fun a => ?answers, fun a b => ?duality, fun c a b => ?growth,
    fun source target reason hold a b => ?again⟩
  case answers =>
    obtain ⟨below, hbelow, hmem⟩ := hrep.exists_descendants lawful traversing a
    obtain ⟨above, habove, hmem'⟩ := hrep.exists_ancestors lawful traversing a
    simp only [hrep.isNode_iff, hrep.leads_iff lawful]
    refine ⟨below, above, hbelow, habove, fun b => ?_, fun b => ?_, fun hnone => ⟨?_, ?_⟩, ?_, ?_⟩
    · rw [hmem]
      exact ⟨fun hb => ⟨hb.1, hb.2.mem_nodes.1, hb.2.mem_nodes.2, hb.2⟩,
        fun hb => ⟨hb.1, hb.2.2.2⟩⟩
    · rw [hmem']
      exact ⟨fun hb => ⟨hb.1, hb.2.mem_nodes.2, hb.2.mem_nodes.1, hb.2⟩,
        fun hb => ⟨hb.1, hb.2.2.2⟩⟩
    · exact List.eq_nil_iff_forall_not_mem.2 fun b hb => hnone ((hmem b).1 hb).2.mem_nodes.1
    · exact List.eq_nil_iff_forall_not_mem.2 fun b hb => hnone ((hmem' b).1 hb).2.mem_nodes.2
    · exact fun ha => ((hmem a).1 ha).1 rfl
    · exact fun ha => ((hmem' a).1 ha).1 rfl
  case duality => rw [hdescendant hrep, hancestor hrep, ne_comm]
  case growth =>
    obtain ⟨g', hrep', hlinks⟩ := hrep.links_subset_call lawful c
    rw [hdescendant hrep, hdescendant hrep', hancestor hrep, hancestor hrep']
    exact ⟨fun hb => ⟨hb.1, hb.2.mono hlinks⟩, fun hb => ⟨hb.1, hb.2.mono hlinks⟩⟩
  case again =>
    obtain ⟨g', hrep', hlinks⟩ := hrep.links_eq_call lawful hold reason
    rw [hdescendant hrep, hdescendant hrep', hancestor hrep, hancestor hrep']
    simp only [Store.Path, hlinks, and_self]

end

/-- Calls that make a cycle of two modules, with a link from one of them to itself, and one that is
    refused. -/
def cyclicCalls : List Call := [
  .chunk ⟨"main", .sync, .zero, []⟩,
  .module (.bare .normal "a.js" [] []),
  .module (.bare .normal "b.js" [] []),
  .module (.bare .normal "c.js" [] []),
  .link "main" "a.js" none,
  .link "a.js" "b.js" (some ⟨"a.js", "", none⟩),
  .link "b.js" "a.js" (some ⟨"b.js", "", none⟩),
  .link "b.js" "b.js" (some ⟨"b.js", "", none⟩),
  .link "c.js" "gone.js" none]

/-- On the cycle each of the two modules finds the other one, but not itself. A link out of it keeps
    what was found, and what is no node finds nothing. -/
theorem reachability_after_cyclicCalls :
    let lib := Digraph.plain (NodeKind × NodeData) GraphLink
    let s := (IndexedStore.empty lib).after lib cyclicCalls
    lib.Lawful ∧ lib.Traversing ∧
      (∃ below above, s.descendants? lib "a.js" = some below ∧
        s.ancestors? lib "a.js" = some above ∧
        "b.js" ∈ below ∧ "a.js" ∉ below ∧ "b.js" ∈ above ∧ "main" ∈ above ∧ "a.js" ∉ above) ∧
      s.IsAncestor lib "b.js" "main" ∧
      (s.call lib (.link "b.js" "c.js" none)).2.IsDescendant lib "main" "b.js" ∧
      ((s.call lib (.link "main" "a.js" none)).2.IsDescendant lib "main" "c.js" ↔
        s.IsDescendant lib "main" "c.js") ∧
      s.descendants? lib "gone.js" = some [] := by
  intro lib s
  have lawful := Digraph.lawful_plain (NodeKind × NodeData) GraphLink
  have traversing := Digraph.traversing_plain (NodeKind × NodeData) GraphLink
  obtain ⟨hanswers, hduality, hgrowth, hagain⟩ :=
    reachability_after_calls lawful traversing cyclicCalls
  have ha : s.IsNode "a.js" := ⟨.module, by decide⟩
  have hb : s.IsNode "b.js" := ⟨.module, by decide⟩
  have hmain : s.IsNode "main" := ⟨.chunk, by decide⟩
  have hgone : ¬ s.IsNode "gone.js" := by
    intro h
    obtain ⟨kind, hin⟩ := h
    revert hin
    cases kind <;> decide
  have hab : s.Leads lib "a.js" "b.js" := .single (by decide)
  have hba : s.Leads lib "b.js" "a.js" := .single (by decide)
  have hma : s.Leads lib "main" "a.js" := .single (by decide)
  obtain ⟨below, above, hbelow, habove, hmem, hmem', _, hself, hself'⟩ := hanswers "a.js"
  obtain ⟨fromMain, _, hfrom, _, hfromMem, _⟩ := hanswers "main"
  obtain ⟨_, _, hnone, _, _, _, hempty, _⟩ := hanswers "gone.js"
  have hfound : s.IsDescendant lib "main" "b.js" :=
    ⟨fromMain, hfrom, (hfromMem "b.js").2 ⟨by decide, hmain, hb, hma.trans hab⟩⟩
  refine ⟨lawful, traversing,
    ⟨below, above, hbelow, habove, (hmem _).2 ⟨by decide, ha, hb, hab⟩, hself,
      (hmem' _).2 ⟨by decide, ha, hb, hba⟩, (hmem' _).2 ⟨by decide, ha, hmain, hma⟩, hself'⟩,
    (hduality _ _).1 hfound, (hgrowth _ _ _).1 hfound,
    (hagain "main" "a.js" none (by decide) _ _).1, ?_⟩
  rw [hnone, (hempty hgone).1]

end BundleGraph.Graph
