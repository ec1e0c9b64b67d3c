import BundleGraph.Graph.Calls
import BundleGraph.Proofs.Graph.Store
import Mathlib.Data.List.Nodup

/-! # Calls to a store

    A call that goes through writes its node and its link to the two maps
    (`Call.spec_of_apply`), and it fails exactly if it is refused
    (`Call.apply_fails_iff`).

    What a store shows of its links and of its kinds of nodes follows from its
    two maps alone: a node depends on each target once, and the two kinds share
    out the nodes.
-/

namespace BundleGraph.Graph

namespace Store

/-! ### Failing -/

theorem addModule_of_wrapper {g : Store} {m : Module} (h : m.kind = .concatenated) :
    g.addModule m = .error (.wrapperNode m.fileName) := by
  have : m.isWrapper = true := by simpa [Module.isWrapper] using h
  rw [addModule, this]
  rfl

theorem addNode_fails_iff {g : Store} {id : String} {data : NodeData} :
    (∃ v, g.addNode id data = .error v) ↔
      ∃ old, g.nodes.lookup? id = some old ∧ old.kind ≠ data.kind := by
  constructor
  · intro h
    obtain ⟨v, hv⟩ := h
    by_contra hnone
    obtain ⟨g', hg, _⟩ := @exists_addNode g id data fun old hold => by
      by_contra hkind
      exact hnone ⟨old, hold, hkind⟩
    rw [hg] at hv
    cases hv
  · intro h
    obtain ⟨old, hold, hkind⟩ := h
    exact ⟨_, addNode_of_clash hold hkind⟩

theorem addLink_fails_iff {g : Store} {s t : String} {reason : Option Reason} :
    (∃ v, g.addLink s t reason = .error v) ↔ s ∉ g.nodes.keys ∨ t ∉ g.nodes.keys := by
  rw [addLink, ← not_and_or]
  split
  · rename_i hends
    simp [hends]
  · rename_i hends
    simp [hends]

/-! ### Kinds of nodes -/

/-- The ids of the two kinds are those of the nodes, each once. -/
theorem idsOfKind_perm (g : Store) :
    (g.idsOfKind .chunk ++ g.idsOfKind .module).Perm g.nodes.keys := by
  have hmodule : (g.nodes.entries.filter fun e => decide (e.2.kind = .module)) =
      g.nodes.entries.filter fun e => !decide (e.2.kind = .chunk) := by
    apply List.filter_congr
    intro e _
    cases e.2.kind <;> rfl
  rw [idsOfKind, idsOfKind, hmodule, ← List.map_append]
  exact (List.filter_append_perm _ g.nodes.entries).map Prod.fst

/-! ### Targets of links -/

/-- The targets of the links of a node, as the list of links has them. -/
theorem targets_eq (g : Store) (id : String) :
    g.targets id = (g.linkList.filter fun l => l.source = id).map GraphLink.target := by
  rw [targets, linkList, OrderedMap.keys, List.filter_map, List.filter_map, List.map_map,
    List.map_map]
  rfl

theorem nodup_targets (g : Store) (id : String) : (g.targets id).Nodup := by
  apply List.Nodup.map_on _ (g.links.nodup_keys.filter _)
  intro p hp q hq hpq
  -- both pairs start at the node, so the targets tell them apart
  have hp1 : p.1 = id := by simpa using (List.mem_filter.1 hp).2
  have hq1 : q.1 = id := by simpa using (List.mem_filter.1 hq).2
  exact Prod.ext (hp1.trans hq1.symm) hpq

end Store

namespace Call

/-- A call that goes through writes its node and its link. -/
theorem spec_of_apply {c : Call} {g g' : Store} (h : c.apply g = .ok g') :
    g'.nodes = g.nodes.insertAllNew c.node?.toList ∧
      g'.links = g.links.insertAll c.link?.toList := by
  cases c with
  | chunk c =>
    obtain ⟨_, hn, hl⟩ := Store.addNode_eq_ok_iff.1 h
    exact ⟨hn, hl⟩
  | module m =>
    by_cases hm : m.kind = .concatenated
    · rw [apply, Store.addModule_of_wrapper hm] at h
      cases h
    · rw [apply, Store.addModule_of_real hm] at h
      obtain ⟨_, hn, hl⟩ := Store.addNode_eq_ok_iff.1 h
      exact ⟨hn, hl⟩
  | link source target reason =>
    obtain ⟨_, hn, hl⟩ := Store.addLink_eq_ok_iff.1 h
    exact ⟨hn, hl⟩

/-- A call fails exactly if it is refused. -/
theorem apply_fails_iff (c : Call) (g : Store) : (∃ v, c.apply g = .error v) ↔ c.Refused g := by
  cases c with
  | chunk c =>
    rw [apply, Store.addChunk, Store.addNode_fails_iff, Refused]
    constructor
    · intro h
      obtain ⟨old, hold, hkind⟩ := h
      cases old with
      | chunk _ => exact absurd rfl hkind
      | module m => exact ⟨m, hold⟩
    · intro h
      obtain ⟨m, hm⟩ := h
      exact ⟨.module m, hm, by simp [NodeData.kind]⟩
  | module m =>
    rw [apply, Refused]
    by_cases hm : m.kind = .concatenated
    · rw [Store.addModule_of_wrapper hm]
      exact ⟨fun _ => Or.inl hm, fun _ => ⟨_, rfl⟩⟩
    · rw [Store.addModule_of_real hm, Store.addNode_fails_iff, or_iff_right hm]
      constructor
      · intro h
        obtain ⟨old, hold, hkind⟩ := h
        cases old with
        | chunk c => exact ⟨c, hold⟩
        | module _ => exact absurd rfl hkind
      · intro h
        obtain ⟨c, hc⟩ := h
        exact ⟨.chunk c, hc, by simp [NodeData.kind]⟩
  | link source target reason => exact Store.addLink_fails_iff

end Call

end BundleGraph.Graph
