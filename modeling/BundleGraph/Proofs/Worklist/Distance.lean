import BundleGraph.Proofs.Worklist

/-! # The order of a search

    What is pending is visited first in, first out. So a search from one member
    visits what is near before what is far (`pairwise_search`): if `x` is visited
    before `y`, then no walk to `y` is shorter than every walk to `x`.

    The invariant (`Layered`) is that the pending members stand in two layers.
    Everything in the front is a number of steps away from the start, everything
    in the back one step more, and whatever is nearer than the front has been
    visited. A member can be pending in both layers, or pending and visited at
    once; then the search passes over it the second time.
-/

namespace BundleGraph.Worklist

section

variable {α : Type} {next : α → List α} {univ : List α} {a : α}

/-! ### Walks -/

/-- `Walk next univ a n x`: `n` steps within the universe lead from `a` to `x`. -/
inductive Walk (next : α → List α) (univ : List α) (a : α) : Nat → α → Prop where
  | here (ha : a ∈ univ) : Walk next univ a 0 a
  | step {n : Nat} {x y : α} (hx : Walk next univ a n x) (hy : y ∈ next x) (hu : y ∈ univ) :
      Walk next univ a (n + 1) y

theorem Walk.mem_univ {n : Nat} {x : α} (h : Walk next univ a n x) : x ∈ univ := by
  cases h with
  | here ha => exact ha
  | step _ _ hu => exact hu

/-- A walk that begins one step earlier is one step longer. -/
theorem Walk.cons {b x : α} {n : Nat} (ha : a ∈ univ) (hb : b ∈ next a)
    (h : Walk next univ b n x) : Walk next univ a (n + 1) x := by
  induction h with
  | here hu => exact .step (.here ha) hb hu
  | step _ hy hu ih => exact .step ih hy hu

theorem Reach.snoc {x y : α} (h : Reach next univ a x) (hy : y ∈ next x) (hu : y ∈ univ) :
    Reach next univ a y := by
  induction h with
  | here ha => exact .step ha hy (.here hu)
  | step ha hb _ ih => exact .step ha hb (ih hy)

/-- What steps lead to is what walks lead to. -/
theorem reach_iff_exists_walk {x : α} : Reach next univ a x ↔ ∃ n, Walk next univ a n x := by
  constructor
  · intro h
    induction h with
    | here ha => exact ⟨0, .here ha⟩
    | step ha hb _ ih =>
      obtain ⟨n, hn⟩ := ih
      exact ⟨n + 1, hn.cons ha hb⟩
  · intro h
    obtain ⟨n, hn⟩ := h
    induction hn with
    | here ha => exact .here ha
    | step _ hy hu ih => exact ih.snoc hy hu

/-- `NotFarther next univ a x y`: for each walk from `a` to `y` there is one to `x` that is not
    longer. -/
def NotFarther (next : α → List α) (univ : List α) (a x y : α) : Prop :=
  ∀ n, Walk next univ a n y → ∃ m ≤ n, Walk next univ a m x

/-! ### The invariant -/

/-- A search from `a` has come to the members that are `d` steps away: they stand in the front of
    what is pending, unless they were visited, and behind them stand members that are one step
    further. Visited members stand with the last one first. -/
structure Layered (next : α → List α) (univ : List α) (a : α) (d : Nat)
    (front back visited : List α) : Prop where
  /-- The front is `d` steps away, as far as it lies in the universe. -/
  inFront : ∀ x ∈ front, x ∈ univ → Walk next univ a d x
  /-- The back is one step further away. -/
  inBack : ∀ x ∈ back, x ∈ univ → Walk next univ a (d + 1) x
  /-- Whatever is nearer was visited. -/
  nearer : ∀ n x, n < d → Walk next univ a n x → x ∈ visited
  /-- Whatever is `d` steps away was visited or stands in the front. -/
  level : ∀ x, Walk next univ a d x → x ∈ visited ∨ x ∈ front
  /-- Nothing that was visited is further away. -/
  reached : ∀ x ∈ visited, ∃ n ≤ d, Walk next univ a n x
  /-- What a visited member leads to was visited or is pending. -/
  covered : Covered next univ (front ++ back) visited
  /-- The members were visited in the order of their distance. -/
  ordered : visited.Pairwise fun y x => NotFarther next univ a x y

variable {d : Nat} {p : α} {front back visited : List α}

theorem Layered.start (next : α → List α) (univ : List α) (a : α) :
    Layered next univ a 0 [a] [] [] where
  inFront x hx hu := by
    obtain rfl := List.mem_singleton.1 hx
    exact .here hu
  inBack x hx := by simp at hx
  nearer n x hn := absurd hn (Nat.not_lt_zero n)
  level x hx := by
    cases hx with
    | here _ => exact Or.inr List.mem_cons_self
  reached x hx := by simp at hx
  covered v hv := by simp at hv
  ordered := .nil

/-- A visit in the front. Whatever was visited before is no farther, because what is nearer than
    the front was visited already, and the new member was not. -/
theorem Layered.visit (h : Layered next univ a d (p :: front) back visited) (hu : p ∈ univ)
    (hnew : p ∉ visited) : Layered next univ a d front (back ++ next p) (p :: visited) where
  inFront x hx := h.inFront x (List.mem_cons_of_mem _ hx)
  inBack x hx hxu := by
    rcases List.mem_append.1 hx with hx | hx
    · exact h.inBack x hx hxu
    · exact .step (h.inFront p List.mem_cons_self hu) hx hxu
  nearer n x hn hx := List.mem_cons_of_mem _ (h.nearer n x hn hx)
  level x hx := by
    rcases h.level x hx with hv | hf
    · exact Or.inl (List.mem_cons_of_mem _ hv)
    · rcases List.mem_cons.1 hf with rfl | hf
      · exact Or.inl List.mem_cons_self
      · exact Or.inr hf
  reached x hx := by
    rcases List.mem_cons.1 hx with rfl | hx
    · exact ⟨d, Nat.le_refl d, h.inFront x List.mem_cons_self hu⟩
    · exact h.reached x hx
  covered := by
    have hcovered : Covered next univ (p :: (front ++ back)) visited := h.covered
    rw [← List.append_assoc]
    exact hcovered.visit
  ordered := by
    refine List.pairwise_cons.2 ⟨fun v hv n hn => ?_, h.ordered⟩
    have hfar : d ≤ n := Nat.le_of_not_lt fun hlt => hnew (h.nearer n p hlt hn)
    obtain ⟨m, hm, hw⟩ := h.reached v hv
    exact ⟨m, Nat.le_trans hm hfar, hw⟩

/-- Passing over a member of the front. -/
theorem Layered.pass (h : Layered next univ a d (p :: front) back visited)
    (hp : ¬ (p ∈ univ ∧ p ∉ visited)) : Layered next univ a d front back visited where
  inFront x hx := h.inFront x (List.mem_cons_of_mem _ hx)
  inBack := h.inBack
  nearer := h.nearer
  level x hx := by
    rcases h.level x hx with hv | hf
    · exact Or.inl hv
    · rcases List.mem_cons.1 hf with rfl | hf
      -- it lies in the universe, so it was passed over because it had been visited
      · by_cases hv : x ∈ visited
        · exact Or.inl hv
        · exact absurd ⟨hx.mem_univ, hv⟩ hp
      · exact Or.inr hf
  reached := h.reached
  covered :=
    have hcovered : Covered next univ (p :: (front ++ back)) visited := h.covered
    hcovered.pass hp
  ordered := h.ordered

/-- When the front is empty, the back becomes the front: whatever is one step further than what
    was visited is in it, or was visited too. -/
theorem Layered.advance (h : Layered next univ a d [] back visited) :
    Layered next univ a (d + 1) back [] visited where
  inFront := h.inBack
  inBack x hx := by simp at hx
  nearer n x hn hx := by
    rcases Nat.lt_or_eq_of_le (Nat.le_of_lt_succ hn) with hlt | rfl
    · exact h.nearer n x hlt hx
    · exact (h.level x hx).resolve_right List.not_mem_nil
  level x hx := by
    cases hx with
    | step hy hx hu =>
      have hy := (h.level _ hy).resolve_right List.not_mem_nil
      exact h.covered _ hy x hx hu
  reached x hx := by
    obtain ⟨n, hn, hw⟩ := h.reached x hx
    exact ⟨n, Nat.le_succ_of_le hn, hw⟩
  covered := by
    rw [List.append_nil]
    exact h.covered
  ordered := h.ordered

/-- Whatever is pending, the layers can be cut such that its first member stands in the front. -/
theorem Layered.exists_front {pending : List α} (h : Layered next univ a d front back visited)
    (hp : p :: pending = front ++ back) : ∃ d front back, pending = front ++ back ∧
      Layered next univ a d (p :: front) back visited := by
  cases front with
  | nil =>
    obtain rfl : p :: pending = back := hp
    exact ⟨d + 1, pending, [], (List.append_nil pending).symm, h.advance⟩
  | cons q front =>
    obtain ⟨rfl, rfl⟩ := List.cons.inj hp
    exact ⟨d, front, back, rfl, h⟩

end

/-! ### The whole search -/

variable {α : Type} [DecidableEq α] {next : α → List α} {univ : List α} {a : α}

theorem Layered.pairwise_search {d : Nat} {front back : List α} (pending visited : List α)
    (hp : pending = front ++ back) (h : Layered next univ a d front back visited) :
    (search next univ pending visited).Pairwise fun y x => NotFarther next univ a x y := by
  fun_induction search next univ pending visited generalizing d front back with
  | case1 visited => exact h.ordered
  | case2 p pending visited hnew ih =>
    obtain ⟨d, front, back, rfl, h⟩ := h.exists_front hp
    exact ih (List.append_assoc _ _ _) (h.visit hnew.1 hnew.2)
  | case3 p pending visited hold ih =>
    obtain ⟨d, front, back, rfl, h⟩ := h.exists_front hp
    exact ih rfl (h.pass hold)

/-- A search from one member visits near members before far ones. -/
theorem pairwise_search (next : α → List α) (univ : List α) (a : α) :
    (search next univ [a] []).reverse.Pairwise (NotFarther next univ a) :=
  List.pairwise_reverse.2
    (Layered.pairwise_search [a] [] (List.append_nil _).symm (Layered.start next univ a))

end BundleGraph.Worklist
