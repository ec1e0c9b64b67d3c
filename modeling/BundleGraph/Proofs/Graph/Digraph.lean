import BundleGraph.Graph.Digraph
import BundleGraph.Proofs.OrderedMap
import BundleGraph.Proofs.Worklist

/-! # Numbering one after the other

    The plain library keeps what every library of graphs promises
    (`Digraph.lawful_plain`). The number of a link is its place among the links,
    and a place has one pair only, so replacing the value of a pair touches no
    other number.

    It finds what links lead to with a work list (`Digraph.traversing_plain`).
-/

namespace BundleGraph.Graph

/-- A member at the end stands after all others. -/
theorem getElem?_concat_eq {α : Type} (xs : List α) (x : α) (i : Nat) :
    (xs ++ [x])[i]? = if i = xs.length then some x else xs[i]? := by
  by_cases hi : i = xs.length
  · rw [if_pos hi, hi, List.getElem?_concat_length]
  · rw [if_neg hi, List.getElem?_append]
    split
    · rfl
    · have hout : xs.length ≤ i := by omega
      have hpast : [x].length ≤ i - xs.length := by
        rw [List.length_singleton]
        omega
      rw [List.getElem?_eq_none hout, List.getElem?_eq_none hpast]

namespace PlainGraph

variable {ν ε : Type}

/-- The link of a number is the one at that place. -/
theorem lookup?_numberedLinks (g : PlainGraph ν ε) (e : Nat) :
    g.numberedLinks.lookup? e = g.links.entries[e]?.map fun l => (l.1.1, l.1.2, l.2) := by
  apply Option.ext
  intro x
  rw [← OrderedMap.mem_entries_iff, numberedLinks, List.mem_map, Option.map_eq_some_iff]
  constructor
  · intro h
    obtain ⟨⟨l, e'⟩, hl, heq⟩ := h
    cases heq
    exact ⟨l, List.mem_zipIdx_iff_getElem?.1 hl, rfl⟩
  · intro h
    obtain ⟨l, hl, rfl⟩ := h
    exact ⟨(l, e), List.mem_zipIdx_iff_getElem?.2 hl, rfl⟩

theorem values_numberedLinks (g : PlainGraph ν ε) :
    g.numberedLinks.values = g.links.entries.map fun l => (l.1.1, l.1.2, l.2) := by
  have hvalues : g.numberedLinks.values =
      (g.links.entries.zipIdx.map Prod.fst).map fun l => (l.1.1, l.1.2, l.2) := by
    rw [OrderedMap.values, numberedLinks, List.map_map, List.map_map]
    rfl
  rw [hvalues, List.zipIdx_map_fst]

theorem mem_keys_numberedLinks_iff {g : PlainGraph ν ε} {e : Nat} :
    e ∈ g.numberedLinks.keys ↔ e < g.links.entries.length := by
  rw [← OrderedMap.contains_iff, OrderedMap.contains, lookup?_numberedLinks, Option.isSome_map]
  simp

/-- A pair of nodes has a number if it is linked. -/
theorem exists_number_iff {g : PlainGraph ν ε} {a b : Nat} {v : ε} :
    (∃ e, g.numberedLinks.lookup? e = some (a, b, v)) ↔ g.links.lookup? (a, b) = some v := by
  rw [← OrderedMap.mem_entries_iff, List.mem_iff_getElem?]
  apply exists_congr
  intro e
  rw [lookup?_numberedLinks, Option.map_eq_some_iff]
  constructor
  · intro h
    obtain ⟨⟨⟨a', b'⟩, v'⟩, hl, heq⟩ := h
    cases heq
    exact hl
  · intro h
    exact ⟨_, h, rfl⟩

end PlainGraph

/-- Numbering one after the other keeps the promises of a library. -/
theorem Digraph.lawful_plain (ν ε : Type) : (Digraph.plain ν ε).Lawful where
  node_empty _ := rfl
  links_empty _ := rfl
  number_addNode g v i hi := by
    simpa [Digraph.plain] using hi
  node_addNode g v i := getElem?_concat_eq g.nodes v i
  links_addNode _ _ _ := rfl
  node_addLink _ _ _ _ _ := rfl
  links_replace g a b v e old hold e' := by
    show (PlainGraph.mk g.nodes (g.links.insert (a, b) v)).numberedLinks.lookup? e' =
      if e' = e then _ else g.numberedLinks.lookup? e'
    have hplace : g.links.entries[e]? = some ((a, b), old) := by
      obtain ⟨l, hl, heq⟩ := Option.map_eq_some_iff.1 (g.lookup?_numberedLinks e ▸ hold)
      cases heq
      exact hl
    have hthere : (a, b) ∈ g.links.keys := List.mem_map_of_mem (List.mem_of_getElem? hplace)
    rw [PlainGraph.lookup?_numberedLinks, PlainGraph.lookup?_numberedLinks,
      OrderedMap.entries_insert_of_mem hthere, List.getElem?_map, Option.map_map]
    by_cases he : e' = e
    · rw [if_pos he, he, hplace, Option.map_some, Function.comp_apply, if_pos rfl]
    · rw [if_neg he]
      -- the pair stands at one place only
      cases hl : g.links.entries[e']? with
      | none => rfl
      | some l =>
        have hne : l.1 ≠ (a, b) := by
          intro hpair
          obtain ⟨_, w⟩ := l
          cases hpair
          exact he (OrderedMap.getElem?_entries_inj hl hplace)
        rw [Option.map_some, Option.map_some, Function.comp_apply, if_neg hne]
  links_append g a b v _ _ hnone := by
    have hnew : (a, b) ∉ g.links.keys := by
      intro hin
      obtain ⟨old, hold⟩ := OrderedMap.exists_lookup?_of_mem_keys hin
      obtain ⟨e, he⟩ := PlainGraph.exists_number_iff.2 hold
      exact hnone e old he
    refine ⟨g.links.entries.length, fun e he => PlainGraph.mem_keys_numberedLinks_iff.1 he,
      fun e => ?_⟩
    show (PlainGraph.mk g.nodes (g.links.insert (a, b) v)).numberedLinks.lookup? e =
      if e = _ then _ else g.numberedLinks.lookup? e
    rw [PlainGraph.lookup?_numberedLinks, PlainGraph.lookup?_numberedLinks,
      OrderedMap.entries_insert_of_not_mem hnew, getElem?_concat_eq]
    split <;> rfl
  mem_numbers g i := by
    simp [Digraph.plain]
  nodup_numbers g := List.nodup_range
  hasLink_iff g a b := by
    show g.links.contains (a, b) = true ↔ ∃ e v, g.numberedLinks.lookup? e = some (a, b, v)
    rw [exists_comm, OrderedMap.contains, Option.isSome_iff_exists]
    exact exists_congr fun v => PlainGraph.exists_number_iff.symm
  link_eq g a b e v h := PlainGraph.exists_number_iff.1 ⟨e, h⟩
  inDegree_eq g i := by
    show (g.sources i).length = g.numberedLinks.values.countP _
    rw [PlainGraph.values_numberedLinks, PlainGraph.sources, List.length_map,
      ← List.countP_eq_length_filter, OrderedMap.keys, List.countP_map, List.countP_map]
    rfl
  outDegree_eq g i := by
    show (g.targets i).length = g.numberedLinks.values.countP _
    rw [PlainGraph.values_numberedLinks, PlainGraph.targets, List.length_map,
      ← List.countP_eq_length_filter, OrderedMap.keys, List.countP_map, List.countP_map]
    rfl
  nodeCount_eq g := List.length_range.symm
  linkCount_eq g := by
    show g.links.entries.length = (g.links.entries.zipIdx.map _).length
    rw [List.length_map, List.length_zipIdx]

/-! ### Following links -/

namespace PlainGraph

variable {ν ε : Type} {g : PlainGraph ν ε} {i j : Nat}

theorem mem_targets_iff : j ∈ g.targets i ↔ (i, j) ∈ g.links.keys := by
  simp [targets]

theorem mem_sources_iff : i ∈ g.sources j ↔ (i, j) ∈ g.links.keys := by
  simp [sources]

theorem joins_iff : (Digraph.plain ν ε).Joins g i j ↔
    i ∈ List.range g.nodes.length ∧ j ∈ List.range g.nodes.length ∧ (i, j) ∈ g.links.keys := by
  simp [Digraph.Joins, Digraph.plain]

theorem mem_reach_iff {next : Nat → List Nat} (hi : i ∈ List.range g.nodes.length) :
    j ∈ g.reach next i ↔ j ≠ i ∧ Relation.TransGen (fun u v => u ∈ List.range g.nodes.length ∧
      v ∈ List.range g.nodes.length ∧ v ∈ next u) i j := by
  rw [reach, List.mem_filter, Worklist.mem_search_next_iff hi, decide_eq_true_eq, and_comm]

end PlainGraph

/-- Numbering one after the other, links are followed as a library promises. -/
theorem Digraph.traversing_plain (ν ε : Type) : (Digraph.plain ν ε).Traversing where
  mem_descendants g i j hi := by
    have hrange : i ∈ List.range g.nodes.length := ((lawful_plain ν ε).mem_numbers g i).2 hi
    show j ∈ g.reach g.targets i ↔ _
    rw [PlainGraph.mem_reach_iff hrange]
    simp only [PlainGraph.mem_targets_iff, ← PlainGraph.joins_iff]
  mem_ancestors g i j hi := by
    have hrange : i ∈ List.range g.nodes.length := ((lawful_plain ν ε).mem_numbers g i).2 hi
    have hback : (fun u v => u ∈ List.range g.nodes.length ∧ v ∈ List.range g.nodes.length ∧
        v ∈ g.sources u) = Function.swap ((Digraph.plain ν ε).Joins g) := by
      funext u v
      show (_ ∧ _ ∧ v ∈ g.sources u) = (Digraph.plain ν ε).Joins g v u
      rw [PlainGraph.mem_sources_iff, PlainGraph.joins_iff]
      exact propext and_left_comm
    show j ∈ g.reach g.sources i ↔ _
    rw [PlainGraph.mem_reach_iff hrange, hback, Relation.transGen_swap]

end BundleGraph.Graph
