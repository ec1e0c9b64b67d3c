import BundleGraph.Graph.Store
import BundleGraph.Proofs.Computations
import BundleGraph.Proofs.OrderedMap

/-! # What the operations of a store do

    One lemma for each operation says when it succeeds and what it leaves behind
    (`addNode_eq_ok_iff`, `addLink_eq_ok_iff`), and one when it fails and how.
    A store is its two maps (`Store.ext`), so nothing more is to be said.

    The runs at the end are lists of chunks and lists of links.
-/

namespace BundleGraph

namespace Graph.Store

/-- A store is its nodes and its links. -/
@[ext] theorem ext {g g' : Store} (hn : g.nodes = g'.nodes) (hl : g.links = g'.links) : g = g' := by
  cases g
  cases g'
  cases hn
  cases hl
  rfl

/-! ### Nodes -/

/-- A node can be added if its id does not stand for a record of another kind. -/
theorem addNode_eq_ok_iff {g g' : Store} {id : String} {data : NodeData} :
    g.addNode id data = .ok g' ↔
      (∀ old, g.nodes.lookup? id = some old → old.kind = data.kind) ∧
        g'.nodes = g.nodes.insertNew id data ∧ g'.links = g.links := by
  unfold addNode
  split
  -- the id stands for a record already, which stays
  · rename_i old hold
    have same : g.nodes.insertNew id data = g.nodes :=
      OrderedMap.insertNew_of_mem (OrderedMap.mem_keys_of_lookup? hold) data
    rw [same]
    split
    · rename_i hkind
      constructor
      · intro h
        cases h
        refine ⟨fun old' h => ?_, rfl, rfl⟩
        obtain rfl := Option.some.inj (hold.symm.trans h)
        exact hkind
      · intro h
        obtain ⟨_, hn, hl⟩ := h
        rw [Store.ext hn hl]
    · rename_i hkind
      constructor
      · intro h
        cases h
      · intro h
        obtain ⟨h, _⟩ := h
        exact absurd (h old hold) hkind
  -- the id is new
  · rename_i hnew
    constructor
    · intro h
      cases h
      refine ⟨fun old h => ?_, rfl, rfl⟩
      rw [hnew] at h
      cases h
    · intro h
      obtain ⟨_, hn, hl⟩ := h
      rw [Except.ok.injEq]
      exact Store.ext hn.symm hl.symm

theorem exists_addNode {g : Store} {id : String} {data : NodeData}
    (h : ∀ old, g.nodes.lookup? id = some old → old.kind = data.kind) :
    ∃ g', g.addNode id data = .ok g' ∧
      g'.nodes = g.nodes.insertNew id data ∧ g'.links = g.links := by
  have hok : ∃ g', g.addNode id data = .ok g' := by
    unfold addNode
    split
    · rename_i old hold
      exact ⟨g, if_pos (h old hold)⟩
    · exact ⟨_, rfl⟩
  obtain ⟨g', hg⟩ := hok
  exact ⟨g', hg, (addNode_eq_ok_iff.1 hg).2⟩

/-- Otherwise the two kinds clash. -/
theorem addNode_of_clash {g : Store} {id : String} {data old : NodeData}
    (hold : g.nodes.lookup? id = some old) (hkind : old.kind ≠ data.kind) :
    g.addNode id data = .error (.kindClash id old.kind data.kind) := by
  unfold addNode
  rw [hold]
  exact if_neg hkind

theorem addModule_of_real {g : Store} {m : Module} (h : m.kind ≠ .concatenated) :
    g.addModule m = g.addNode m.fileName (.module m) := by
  have : m.isWrapper = false := by simpa [Module.isWrapper] using h
  rw [addModule, this]
  rfl

/-! ### Links -/

/-- A link can be added if both of its ends are nodes. -/
theorem addLink_eq_ok_iff {g g' : Store} {s t : String} {reason : Option Reason} :
    g.addLink s t reason = .ok g' ↔
      (s ∈ g.nodes.keys ∧ t ∈ g.nodes.keys) ∧
        g'.nodes = g.nodes ∧ g'.links = g.links.insert (s, t) reason := by
  unfold addLink
  split
  · rename_i hends
    constructor
    · intro h
      cases h
      exact ⟨hends, rfl, rfl⟩
    · intro h
      obtain ⟨_, hn, hl⟩ := h
      rw [Except.ok.injEq]
      exact Store.ext hn.symm hl.symm
  · rename_i hends
    constructor
    · intro h
      cases h
    · intro h
      obtain ⟨h, _⟩ := h
      exact absurd h hends

theorem exists_addLink {g : Store} {s t : String} (hs : s ∈ g.nodes.keys) (ht : t ∈ g.nodes.keys)
    (reason : Option Reason) :
    ∃ g', g.addLink s t reason = .ok g' ∧
      g'.nodes = g.nodes ∧ g'.links = g.links.insert (s, t) reason := by
  have h : ∃ g', g.addLink s t reason = .ok g' := by
    unfold addLink
    rw [dif_pos ⟨hs, ht⟩]
    exact ⟨_, rfl⟩
  obtain ⟨g', hg⟩ := h
  exact ⟨g', hg, (addLink_eq_ok_iff.1 hg).2⟩

/-! ### Runs -/

/-- Chunks can be added one after the other as long as there are no modules. -/
theorem exists_foldlM_addChunk (cs : List Chunk) {g : Store}
    (h : ∀ id d, g.nodes.lookup? id = some d → d.kind = .chunk) :
    ∃ g', cs.foldlM addChunk g = .ok g' ∧
      g'.nodes = g.nodes.insertAllNew (cs.map fun c => (c.id, .chunk c)) ∧ g'.links = g.links := by
  induction cs generalizing g with
  | nil => exact ⟨g, rfl, rfl, rfl⟩
  | cons c cs ih =>
    -- one chunk is added, and the store still holds chunks only
    obtain ⟨g₁, h₁, hn₁, hl₁⟩ := @exists_addNode g c.id (.chunk c) (h c.id)
    have chunks : ∀ id d, g₁.nodes.lookup? id = some d → d.kind = .chunk := by
      intro id d hd
      rw [hn₁, OrderedMap.lookup?_insertNew, Option.or_eq_some_iff] at hd
      rcases hd with hd | ⟨_, hd⟩
      · exact h id d hd
      · split at hd
        · cases hd
          rfl
        · cases hd
    obtain ⟨g', hg, hn, hl⟩ := ih chunks
    refine ⟨g', ?_, ?_, hl.trans hl₁⟩
    · rw [List.foldlM_cons, addChunk, h₁, ok_bind, hg]
    · rw [hn, hn₁]
      rfl

/-- Links between nodes can be added one after the other, and the last reason of a pair stays. -/
theorem exists_foldlM_addLink {ls : List GraphLink} {g : Store}
    (ends : ∀ l ∈ ls, l.source ∈ g.nodes.keys ∧ l.target ∈ g.nodes.keys) :
    ∃ g', ls.foldlM (fun g l => g.addLink l.source l.target l.reason) g = .ok g' ∧
      g'.nodes = g.nodes ∧
        g'.links = g.links.insertAll (ls.map fun l => ((l.source, l.target), l.reason)) := by
  induction ls generalizing g with
  | nil => exact ⟨g, rfl, rfl, rfl⟩
  | cons l ls ih =>
    obtain ⟨hs, ht⟩ := ends l List.mem_cons_self
    obtain ⟨g₁, h₁, hn₁, hl₁⟩ := exists_addLink hs ht l.reason
    -- a link adds no node, so the other ends are still nodes
    have rest : ∀ l ∈ ls, l.source ∈ g₁.nodes.keys ∧ l.target ∈ g₁.nodes.keys := by
      intro l' hl'
      rw [hn₁]
      exact ends l' (List.mem_cons_of_mem _ hl')
    obtain ⟨g', hg, hn, hl⟩ := ih rest
    refine ⟨g', ?_, hn.trans hn₁, ?_⟩
    · rw [List.foldlM_cons, h₁, ok_bind, hg]
    · rw [hl, hl₁]
      rfl

theorem addLink_of_missing {g : Store} {s t : String}
    (h : ¬ (s ∈ g.nodes.keys ∧ t ∈ g.nodes.keys)) (reason : Option Reason) :
    g.addLink s t reason =
      .error (.missingEnds s t ([s, t].filter fun id => id ∉ g.nodes.keys)) := by
  rw [addLink, dif_neg h]

/-- A list of links that cannot be added has a link with an end that is no node, and the run says
    which. -/
theorem exists_foldlM_addLink_error {ls : List GraphLink} {g : Store}
    (h : ¬ ∀ l ∈ ls, l.source ∈ g.nodes.keys ∧ l.target ∈ g.nodes.keys) :
    ∃ l ∈ ls, ¬ (l.source ∈ g.nodes.keys ∧ l.target ∈ g.nodes.keys) ∧
      ls.foldlM (fun g l => g.addLink l.source l.target l.reason) g =
        .error (.missingEnds l.source l.target
          ([l.source, l.target].filter fun id => id ∉ g.nodes.keys)) := by
  induction ls generalizing g with
  | nil => exact absurd (fun l hl => absurd hl List.not_mem_nil) h
  | cons l ls ih =>
    rw [List.foldlM_cons]
    by_cases hends : l.source ∈ g.nodes.keys ∧ l.target ∈ g.nodes.keys
    · -- the first link is added and adds no node, so a later one lacks an end
      obtain ⟨g₁, h₁, hn₁, _⟩ := exists_addLink hends.1 hends.2 l.reason
      have hrest : ¬ ∀ l ∈ ls, l.source ∈ g₁.nodes.keys ∧ l.target ∈ g₁.nodes.keys := by
        rw [hn₁]
        intro hall
        exact h (List.forall_mem_cons.2 ⟨hends, hall⟩)
      obtain ⟨l', hl', hlacks, herr⟩ := ih hrest
      rw [hn₁] at hlacks herr
      exact ⟨l', List.mem_cons_of_mem _ hl', hlacks, by rw [h₁, ok_bind, herr]⟩
    · exact ⟨l, List.mem_cons_self, hends, by rw [addLink_of_missing hends, error_bind]⟩

end Graph.Store

end BundleGraph
