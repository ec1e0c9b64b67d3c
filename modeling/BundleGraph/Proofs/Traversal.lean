import BundleGraph.Proofs.Preorder
import Mathlib.Data.List.Basic
import Mathlib.Logic.Function.Iterate

/-! # A traversal, round by round and place by place

    A walk is carried out by a loop over a stack. Each round takes the last value
    off, visits it, and puts what it unfolds into on the stack, the first one
    last. What was visited together with the walk of what is pending never
    changes (`walked_round`), and a round takes one value from the one to the
    other. So the loop ends, after as many rounds as there are values
    (`iterate_round_length`).

    Equal values may stand in several places of a tree, so that each is visited
    once is said of places. A place is the way down to it, counting siblings from
    the left. The places of what a walk visits are all places there are, each
    once, in lexicographic order: a value before all below it, and these before
    its right neighbours (`map_at?_places`, `pairwise_places`).
-/

namespace BundleGraph.Unfolding

variable {α : Type} [SizeOf α]

/-! ### Rounds -/

/-- A loop over a stack. -/
structure Loop (α : Type) where
  /-- What was visited, in this order. -/
  visited : List α
  /-- What is pending, the next value last. -/
  stack : List α

/-- The loop before its first round. -/
def Loop.start (roots : List α) : Loop α := ⟨[], roots.reverse⟩

/-- One round of the loop; none is left if nothing is pending. -/
def round (u : Unfolding α) (l : Loop α) : Loop α :=
  match l.stack.getLast? with
  | some a => ⟨l.visited ++ [a], l.stack.dropLast ++ (u.children a).reverse⟩
  | none => l

/-- What a loop has visited, with what is still to be walked. -/
def walked (u : Unfolding α) (l : Loop α) : List α := l.visited ++ u.walk l.stack.reverse

theorem round_concat (u : Unfolding α) (visited rest : List α) (a : α) :
    u.round ⟨visited, rest ++ [a]⟩ = ⟨visited ++ [a], rest ++ (u.children a).reverse⟩ := by
  rw [round, List.getLast?_concat, List.dropLast_concat]

/-- A round goes on with the same walk. -/
theorem walked_round (u : Unfolding α) (l : Loop α) : u.walked (u.round l) = u.walked l := by
  obtain ⟨visited, stack⟩ := l
  rcases List.eq_nil_or_concat' stack with rfl | ⟨rest, a, rfl⟩
  · rfl
  · rw [round_concat, walked, walked]
    simp only [List.reverse_append, List.reverse_reverse, List.reverse_singleton, walk_step,
      List.append_assoc, List.singleton_append]

/-- A round visits one value more. -/
theorem length_visited_round (u : Unfolding α) {l : Loop α} (h : l.stack ≠ []) :
    (u.round l).visited.length = l.visited.length + 1 := by
  obtain ⟨visited, stack⟩ := l
  rcases List.eq_nil_or_concat' stack with rfl | ⟨rest, a, rfl⟩
  · exact absurd rfl h
  · rw [round_concat, List.length_append, List.length_singleton]

theorem walked_iterate_round (u : Unfolding α) (n : Nat) (l : Loop α) :
    u.walked (u.round^[n] l) = u.walked l := by
  induction n with
  | zero => rfl
  | succ n ih => rw [Function.iterate_succ_apply', walked_round, ih]

theorem walk_eq_nil_iff (u : Unfolding α) {pending : List α} :
    u.walk pending = [] ↔ pending = [] := by
  cases pending with
  | nil => simp
  | cons a rest => simp [walk_cons]

section

variable (u : Unfolding α) (roots : List α)

/-- After some rounds as many values are left to be walked as were not visited. -/
theorem length_visited_add (n : Nat) :
    (u.round^[n] (.start roots)).visited.length +
      (u.walk (u.round^[n] (.start roots)).stack.reverse).length = (u.walk roots).length := by
  rw [← List.length_append, ← walked, walked_iterate_round, walked, Loop.start,
    List.reverse_reverse, List.nil_append]

theorem length_visited_iterate_round {n : Nat} (hn : n ≤ (u.walk roots).length) :
    (u.round^[n] (.start roots)).visited.length = n := by
  induction n with
  | zero => rfl
  | succ n ih =>
    have hvisited := ih (Nat.le_of_succ_le hn)
    have hleft := u.length_visited_add roots n
    have hpending : (u.round^[n] (.start roots)).stack ≠ [] := by
      intro hnil
      rw [hnil, List.reverse_nil, walk_nil, List.length_nil] at hleft
      omega
    rw [Function.iterate_succ_apply', u.length_visited_round hpending, hvisited]

/-- While values are left, something is pending. -/
theorem stack_iterate_round_ne_nil {n : Nat} (hn : n < (u.walk roots).length) :
    (u.round^[n] (.start roots)).stack ≠ [] := by
  intro hnil
  have hleft := u.length_visited_add roots n
  rw [u.length_visited_iterate_round roots (Nat.le_of_lt hn), hnil, List.reverse_nil, walk_nil,
    List.length_nil] at hleft
  omega

/-- After one round for each value the loop has ended, and has visited what a walk visits. -/
theorem iterate_round_length :
    u.round^[(u.walk roots).length] (.start roots) = ⟨u.walk roots, []⟩ := by
  have hvisited := u.length_visited_iterate_round roots (Nat.le_refl _)
  have hleft := u.length_visited_add roots (u.walk roots).length
  have hwalked := u.walked_iterate_round (u.walk roots).length (.start roots)
  generalize u.round^[(u.walk roots).length] (.start roots) = l at hvisited hleft hwalked
  obtain ⟨visited, stack⟩ := l
  have hnone : stack = [] := by
    rw [← List.reverse_eq_nil_iff, ← u.walk_eq_nil_iff, ← List.length_eq_zero_iff]
    simp only at hvisited hleft
    omega
  subst hnone
  rw [walked, walked, List.reverse_nil, walk_nil, List.append_nil, Loop.start,
    List.reverse_reverse, List.nil_append] at hwalked
  exact congrArg (Loop.mk · []) hwalked

end

/-! ### Places -/

/-- The value in a place: the numbers of siblings from the left, on the way down from the roots. -/
def at? (u : Unfolding α) (roots : List α) : List Nat → Option α
  | [] => none
  | [i] => roots[i]?
  | i :: j :: place => roots[i]?.bind fun a => u.at? (u.children a) (j :: place)

/-- All places, in the order of a walk. -/
def places (u : Unfolding α) : List α → List (List Nat)
  | [] => []
  | a :: rest =>
    have := u.smaller a
    [0] :: ((u.places (u.children a)).map (0 :: ·) ++ (u.places rest).map (List.modifyHead (· + 1)))
termination_by roots => sizeOf roots
decreasing_by
  all_goals
    rw [List.cons.sizeOf_spec]
    omega

variable (u : Unfolding α)

@[simp] theorem places_nil : u.places [] = [] := by
  rw [places]

theorem places_cons (a : α) (rest : List α) :
    u.places (a :: rest) = [0] :: ((u.places (u.children a)).map (0 :: ·) ++
      (u.places rest).map (List.modifyHead (· + 1))) := by
  rw [places]

/-- A place of the first value or of one to its right, or one below the first value. -/
theorem mem_places_cons {a : α} {rest : List α} {place : List Nat} :
    place ∈ u.places (a :: rest) ↔ place = [0] ∨
      (∃ below ∈ u.places (u.children a), place = 0 :: below) ∨
      ∃ right ∈ u.places rest, place = right.modifyHead (· + 1) := by
  simp only [places_cons, List.mem_cons, List.mem_append, List.mem_map, eq_comm]

theorem ne_nil_of_mem_places {roots : List α} {place : List Nat} (h : place ∈ u.places roots) :
    place ≠ [] := by
  induction roots generalizing place with
  | nil => simp at h
  | cons a rest ih =>
    rcases u.mem_places_cons.1 h with rfl | ⟨below, _, rfl⟩ | ⟨right, hright, rfl⟩
    · exact List.cons_ne_nil _ _
    · exact List.cons_ne_nil _ _
    · exact mt List.modifyHead_eq_nil_iff.1 (ih hright)

/-! ### Values in places -/

theorem at?_below (a : α) (rest : List α) {place : List Nat} (h : place ≠ []) :
    u.at? (a :: rest) (0 :: place) = u.at? (u.children a) place := by
  cases place with
  | nil => exact absurd rfl h
  | cons j place => rfl

theorem at?_right (a : α) (rest : List α) (place : List Nat) :
    u.at? (a :: rest) (place.modifyHead (· + 1)) = u.at? rest place := by
  match place with
  | [] => rfl
  | [i] => rfl
  | i :: j :: place => rfl

/-- A walk visits the values in all places, in their order. -/
theorem map_at?_places (roots : List α) :
    (u.places roots).map (u.at? roots) = (u.walk roots).map some := by
  match roots with
  | [] => simp
  | a :: rest =>
    have := u.smaller a
    have hbelow : (u.places (u.children a)).map (fun place => u.at? (a :: rest) (0 :: place)) =
        (u.walk (u.children a)).map some := by
      rw [← map_at?_places (u.children a)]
      exact List.map_congr_left fun place h => u.at?_below a rest (u.ne_nil_of_mem_places h)
    have hright : (u.places rest).map
        (fun place => u.at? (a :: rest) (place.modifyHead (· + 1))) = (u.walk rest).map some := by
      rw [← map_at?_places rest]
      exact List.map_congr_left fun place _ => u.at?_right a rest place
    rw [places_cons, walk_cons, List.map_cons, List.map_append, List.map_map, List.map_map,
      List.map_cons, List.map_append, ← hbelow, ← hright]
    rfl
termination_by sizeOf roots
decreasing_by
  all_goals
    rw [List.cons.sizeOf_spec]
    omega

theorem mem_places_below {a : α} {rest : List α} {j : Nat} {place : List Nat} :
    0 :: j :: place ∈ u.places (a :: rest) ↔ j :: place ∈ u.places (u.children a) := by
  rw [mem_places_cons]
  constructor
  · intro h
    rcases h with h | ⟨below, hbelow, h⟩ | ⟨right, _, h⟩
    · cases h
    · cases h
      exact hbelow
    · cases right <;> cases h
  · intro h
    exact Or.inr (Or.inl ⟨_, h, rfl⟩)

theorem mem_places_right {a : α} {rest : List α} {i : Nat} {place : List Nat} :
    (i + 1) :: place ∈ u.places (a :: rest) ↔ i :: place ∈ u.places rest := by
  rw [mem_places_cons]
  constructor
  · intro h
    rcases h with h | ⟨below, _, h⟩ | ⟨right, hright, h⟩
    · cases h
    · cases h
    · cases right with
      | nil => cases h
      | cons k right =>
        cases h
        exact hright
  · intro h
    exact Or.inr (Or.inr ⟨_, h, rfl⟩)

/-- The places are those in which there is a value. -/
theorem mem_places_iff (roots : List α) (place : List Nat) :
    place ∈ u.places roots ↔ (u.at? roots place).isSome = true := by
  match roots, place with
  | roots, [] => exact iff_of_false (fun h => u.ne_nil_of_mem_places h rfl) Bool.false_ne_true
  | [], i :: place => cases place <;> simp [at?]
  | a :: rest, [0] => exact iff_of_true (u.mem_places_cons.2 (Or.inl rfl)) rfl
  | a :: rest, 0 :: j :: place =>
    have := u.smaller a
    rw [mem_places_below, u.at?_below a rest (List.cons_ne_nil _ _),
      mem_places_iff (u.children a)]
  | a :: rest, (i + 1) :: place =>
    have hright := u.at?_right a rest (i :: place)
    rw [List.modifyHead_cons] at hright
    rw [mem_places_right, hright, mem_places_iff rest]
termination_by sizeOf roots
decreasing_by
  all_goals
    rw [List.cons.sizeOf_spec]
    omega

theorem modifyHead_succ_lt {place other : List Nat} (h : place < other) :
    place.modifyHead (· + 1) < other.modifyHead (· + 1) := by
  match place, other with
  | _, [] => exact absurd h (List.not_lt_nil _)
  | [], j :: other => exact List.nil_lt_cons _ _
  | i :: place, j :: other =>
    rw [List.modifyHead_cons, List.modifyHead_cons, List.cons_lt_cons_iff]
    rcases List.cons_lt_cons_iff.1 h with h | ⟨h, hrest⟩
    · exact Or.inl (Nat.succ_lt_succ h)
    · exact Or.inr ⟨congrArg _ h, hrest⟩

/-- Places come in lexicographic order, so each comes once. -/
theorem pairwise_places (roots : List α) : (u.places roots).Pairwise (· < ·) := by
  match roots with
  | [] => simp
  | a :: rest =>
    have := u.smaller a
    have hbelow := pairwise_places (u.children a)
    have hright := pairwise_places rest
    -- what is further to the right begins with a larger number
    have hlater : ∀ below, ∀ right ∈ u.places rest, 0 :: below < right.modifyHead (· + 1) := by
      intro below right hr
      obtain ⟨k, right, rfl⟩ := List.exists_cons_of_ne_nil (u.ne_nil_of_mem_places hr)
      exact List.cons_lt_cons_iff.2 (Or.inl (Nat.succ_pos k))
    rw [places_cons, List.pairwise_cons, List.pairwise_append, List.pairwise_map, List.pairwise_map]
    refine ⟨fun place hplace => ?_, ?_, hright.imp modifyHead_succ_lt, fun place hp other ho => ?_⟩
    · rcases List.mem_append.1 hplace with h | h
      · obtain ⟨below, hb, rfl⟩ := List.mem_map.1 h
        obtain ⟨j, below, rfl⟩ := List.exists_cons_of_ne_nil (u.ne_nil_of_mem_places hb)
        exact List.cons_lt_cons_iff.2 (Or.inr ⟨rfl, List.nil_lt_cons _ _⟩)
      · obtain ⟨right, hr, rfl⟩ := List.mem_map.1 h
        exact hlater [] right hr
    · exact hbelow.imp fun h => List.cons_lt_cons_iff.2 (Or.inr ⟨rfl, h⟩)
    · obtain ⟨below, _, rfl⟩ := List.mem_map.1 hp
      obtain ⟨right, hr, rfl⟩ := List.mem_map.1 ho
      exact hlater below right hr
termination_by sizeOf roots
decreasing_by
  all_goals
    rw [List.cons.sizeOf_spec]
    omega

/-! ### Traversals -/

/-- A value, then what recursion lists for each value that it unfolds into, from left to right. -/
def preorder (a : α) : List α :=
  a :: (u.children a).attach.flatMap fun c =>
    have := List.sizeOf_lt_of_mem c.2
    have := u.smaller a
    preorder c.1
termination_by sizeOf a
decreasing_by omega

theorem preorder_eq (a : α) : u.preorder a = a :: (u.children a).flatMap u.preorder := by
  rw [preorder, List.flatMap_subtype (g := u.preorder) (fun _ _ => rfl), List.unattach_attach]

/-- The walk over a work list is the recursive pre-order. -/
theorem walk_eq_flatMap_preorder (roots : List α) : u.walk roots = roots.flatMap u.preorder := by
  refine (u.eq_walk List.flatMap_nil (fun a rest => ?_) roots).symm
  rw [List.flatMap_cons, preorder_eq, List.cons_append]

/-- `u.Traverses roots order`: the loop that begins with the roots on its stack ends, and it has
    visited `order` then, which has the value in each place once, in the order of the places. -/
structure Traverses (roots order : List α) : Prop where
  /-- There are as many rounds as values. -/
  goes_on : ∀ n < order.length, (u.round^[n] (.start roots)).stack ≠ []
  /-- After them nothing is pending. -/
  ends : u.round^[order.length] (.start roots) = ⟨order, []⟩
  /-- The places in lexicographic order: a value before all below it, and from left to right. -/
  in_places : ∃ places : List (List Nat), places.Pairwise (· < ·) ∧
    (∀ place, place ∈ places ↔ (u.at? roots place).isSome = true) ∧
    places.map (u.at? roots) = order.map some

theorem traverses_walk (roots : List α) : u.Traverses roots (u.walk roots) where
  goes_on _ hn := u.stack_iterate_round_ne_nil roots hn
  ends := u.iterate_round_length roots
  in_places :=
    ⟨u.places roots, u.pairwise_places roots, u.mem_places_iff roots, u.map_at?_places roots⟩

end BundleGraph.Unfolding
