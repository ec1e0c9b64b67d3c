import BundleGraph.Worklist
import Mathlib.Logic.Relation

/-! # What a search visits

    A search visits exactly the members of the universe that its pending members
    lead to (`mem_search_iff`).

    Soundness needs no invariant. Completeness does: whatever a visited member
    leads to was visited itself or is still pending (`Covered`). When nothing is
    pending any more, this says that the visited members are closed.
-/

namespace BundleGraph.Worklist

section

variable {α : Type} {next : α → List α} {univ : List α}

/-- `Reach next univ a x`: steps within the universe lead from `a` to `x`. -/
inductive Reach (next : α → List α) (univ : List α) : α → α → Prop where
  | here {a : α} (ha : a ∈ univ) : Reach next univ a a
  | step {a b x : α} (ha : a ∈ univ) (hb : b ∈ next a) (hx : Reach next univ b x) :
      Reach next univ a x

theorem Reach.mem_univ {a x : α} (h : Reach next univ a x) : a ∈ univ := by
  cases h with
  | here ha => exact ha
  | step ha _ _ => exact ha

/-- The invariant of a search: what a visited member leads to was visited or is pending. -/
def Covered (next : α → List α) (univ pending visited : List α) : Prop :=
  ∀ v ∈ visited, ∀ y ∈ next v, y ∈ univ → y ∈ visited ∨ y ∈ pending

/-! ### One step -/

/-- A visit keeps the invariant: what the new member leads to becomes pending. -/
theorem Covered.visit {a : α} {pending visited : List α}
    (h : Covered next univ (a :: pending) visited) :
    Covered next univ (pending ++ next a) (a :: visited) := by
  intro v hv y hy hu
  rcases List.mem_cons.1 hv with rfl | hv
  · exact Or.inr (List.mem_append_right _ hy)
  · rcases h v hv y hy hu with hy | hy
    · exact Or.inl (List.mem_cons_of_mem _ hy)
    · rcases List.mem_cons.1 hy with rfl | hy
      · exact Or.inl List.mem_cons_self
      · exact Or.inr (List.mem_append_left _ hy)

/-- Passing over a member keeps the invariant: it was visited, or lies outside the universe. -/
theorem Covered.pass {a : α} {pending visited : List α}
    (h : Covered next univ (a :: pending) visited) (ha : ¬ (a ∈ univ ∧ a ∉ visited)) :
    Covered next univ pending visited := by
  intro v hv y hy hu
  rcases h v hv y hy hu with hy | hy
  · exact Or.inl hy
  · rcases List.mem_cons.1 hy with rfl | hy
    · left
      by_cases hvis : y ∈ visited
      · exact hvis
      · exact absurd ⟨hu, hvis⟩ ha
    · exact Or.inr hy

end

/-! ### The whole search -/

variable {α : Type} [DecidableEq α] {next : α → List α} {univ : List α}

/-- Every member of the result was visited before, or a pending member leads to it. -/
theorem reach_of_mem_search {x : α} (pending visited : List α)
    (hx : x ∈ search next univ pending visited) :
    x ∈ visited ∨ ∃ a ∈ pending, Reach next univ a x := by
  fun_induction search next univ pending visited with
  | case1 visited => exact Or.inl hx
  | case2 a pending visited h ih =>
    -- `x` is `a`, was visited before, or is led to from what was pending or from a successor of `a`
    rcases ih hx with hv | ⟨b, hb, hr⟩
    · rcases List.mem_cons.1 hv with rfl | hv
      · exact Or.inr ⟨x, List.mem_cons_self, .here h.1⟩
      · exact Or.inl hv
    · rcases List.mem_append.1 hb with hb | hb
      · exact Or.inr ⟨b, List.mem_cons_of_mem _ hb, hr⟩
      · exact Or.inr ⟨a, List.mem_cons_self, .step h.1 hb hr⟩
  | case3 a pending visited h ih =>
    rcases ih hx with hv | ⟨b, hb, hr⟩
    · exact Or.inl hv
    · exact Or.inr ⟨b, List.mem_cons_of_mem _ hb, hr⟩

theorem mem_search_of_visited {x : α} (pending visited : List α) (hx : x ∈ visited) :
    x ∈ search next univ pending visited := by
  fun_induction search next univ pending visited with
  | case1 visited => exact hx
  | case2 a pending visited h ih => exact ih (List.mem_cons_of_mem _ hx)
  | case3 a pending visited h ih => exact ih hx

theorem mem_search_of_pending {x : α} (pending visited : List α) (hx : x ∈ pending)
    (hu : x ∈ univ) : x ∈ search next univ pending visited := by
  fun_induction search next univ pending visited with
  | case1 visited => simp at hx
  | case2 a pending visited h ih =>
    rcases List.mem_cons.1 hx with rfl | hx
    · exact mem_search_of_visited _ _ List.mem_cons_self
    · exact ih (List.mem_append_left _ hx)
  | case3 a pending visited h ih =>
    -- a member of the universe is passed over only if it was visited
    rcases List.mem_cons.1 hx with rfl | hx
    · have hv : x ∈ visited := by
        by_cases hv : x ∈ visited
        · exact hv
        · exact absurd ⟨hu, hv⟩ h
      exact mem_search_of_visited _ _ hv
    · exact ih hx

/-- At its end a search is closed: nothing that it visited leads out of what it visited. -/
theorem closed_search {pending visited : List α} (h : Covered next univ pending visited) :
    Covered next univ [] (search next univ pending visited) := by
  fun_induction search next univ pending visited with
  | case1 visited => exact h
  | case2 a pending visited ha ih => exact ih h.visit
  | case3 a pending visited ha ih => exact ih (h.pass ha)

theorem mem_search_of_reach {a x : α} {pending visited : List α}
    (h : Covered next univ pending visited) (hr : Reach next univ a x)
    (ha : a ∈ search next univ pending visited) : x ∈ search next univ pending visited := by
  -- along the path every member was visited, since nothing is pending at the end
  induction hr with
  | here _ => exact ha
  | step _ hb hx ih =>
    rcases closed_search h _ ha _ hb hx.mem_univ with hb | hb
    · exact ih hb
    · simp at hb

/-- A search that starts afresh visits what its pending members lead to, and nothing else. -/
theorem mem_search_iff {x : α} (pending : List α) :
    x ∈ search next univ pending [] ↔ ∃ a ∈ pending, Reach next univ a x := by
  constructor
  · intro hx
    rcases reach_of_mem_search pending [] hx with hv | hr
    · simp at hv
    · exact hr
  · intro h
    obtain ⟨a, ha, hr⟩ := h
    have start : Covered next univ pending [] := fun v hv => by simp at hv
    exact mem_search_of_reach start hr (mem_search_of_pending pending [] ha hr.mem_univ)

/-- A search that starts with the successors of a member visits what one or more steps lead to. -/
theorem mem_search_next_iff {a x : α} (ha : a ∈ univ) :
    x ∈ search next univ (next a) [] ↔
      Relation.TransGen (fun u v => u ∈ univ ∧ v ∈ univ ∧ v ∈ next u) a x := by
  rw [mem_search_iff]
  constructor
  · intro h
    obtain ⟨b, hb, hr⟩ := h
    induction hr generalizing a with
    | here hu => exact .single ⟨ha, hu, hb⟩
    | step hu hc _ ih => exact .head ⟨ha, hu, hb⟩ (ih hu hc)
  · intro h
    clear ha
    induction h using Relation.TransGen.head_induction_on with
    | single h => exact ⟨_, h.2.2, .here h.2.1⟩
    | head h _ ih =>
      obtain ⟨c, hc, hr⟩ := ih
      exact ⟨_, h.2.2, .step h.2.1 hc hr⟩

end BundleGraph.Worklist
