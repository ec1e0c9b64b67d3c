/-! # Unfolding

    Chunks hold modules, wrappers hold modules, size groups hold groups and
    syntax nodes hold nodes. All these trees are visited in the same way: a
    node first, then what it unfolds into, siblings from left to right.

    `Unfolding` says what a value unfolds into, with the reason why that ends.
    `Unfolding.walk` visits a list of pending values and keeps its own work
    list, so the depth of a tree does not matter to it. `walk_append` and
    `walk_cons` say that it is the recursive pre-order.
-/

namespace BundleGraph

/-- A way to unfold a value into smaller values. -/
structure Unfolding (α : Type) [SizeOf α] where
  /-- What a value unfolds into, from left to right. -/
  children : α → List α
  /-- All of it is smaller than the value. -/
  smaller : ∀ a, sizeOf (children a) < sizeOf a

theorem sizeOf_list_pos {α : Type} [SizeOf α] (xs : List α) : 0 < sizeOf xs := by
  cases xs with
  | nil => exact Nat.one_pos
  | cons x xs =>
    rw [List.cons.sizeOf_spec]
    omega

theorem sizeOf_append {α : Type} [SizeOf α] (xs ys : List α) :
    sizeOf (xs ++ ys) + 1 = sizeOf xs + sizeOf ys := by
  induction xs with
  | nil => simp; omega
  | cons x xs ih => simp; omega

namespace Unfolding

variable {α : Type} [SizeOf α]

/-- Visits the pending values from the left, each before what it unfolds into; `visited` holds
    what came before, last first. -/
def walkFrom (u : Unfolding α) (visited : List α) : List α → List α
  | [] => visited.reverse
  | a :: pending => u.walkFrom (a :: visited) (u.children a ++ pending)
termination_by pending => sizeOf pending
decreasing_by
  have h := sizeOf_append (u.children a) pending
  have := u.smaller a
  simp
  omega

/-- Visits the pending values from the left, each before what it unfolds into. -/
def walk (u : Unfolding α) (pending : List α) : List α := u.walkFrom [] pending

theorem walkFrom_eq (u : Unfolding α) (visited pending : List α) :
    u.walkFrom visited pending = visited.reverse ++ u.walk pending := by
  match pending with
  | [] => simp [walk, walkFrom]
  | a :: rest =>
    have h := sizeOf_append (u.children a) rest
    have := u.smaller a
    rw [walk, walkFrom, walkFrom, u.walkFrom_eq (a :: visited), u.walkFrom_eq [a]]
    simp
termination_by sizeOf pending
decreasing_by all_goals (simp; omega)

@[simp] theorem walk_nil (u : Unfolding α) : u.walk [] = [] := by
  simp [walk, walkFrom]

theorem walk_step (u : Unfolding α) (a : α) (pending : List α) :
    u.walk (a :: pending) = a :: u.walk (u.children a ++ pending) := by
  rw [walk, walkFrom, walkFrom_eq]
  simp

/-- What is pending later is visited later. -/
theorem walk_append (u : Unfolding α) (xs ys : List α) :
    u.walk (xs ++ ys) = u.walk xs ++ u.walk ys := by
  match xs with
  | [] => simp
  | x :: rest =>
    have h := sizeOf_append (u.children x) rest
    have := u.smaller x
    rw [List.cons_append, walk_step, walk_step, List.cons_append, ← List.append_assoc,
      u.walk_append (u.children x ++ rest) ys]
termination_by sizeOf xs
decreasing_by simp; omega

/-- A value comes first, then all below it, then its right neighbours. -/
theorem walk_cons (u : Unfolding α) (a : α) (rest : List α) :
    u.walk (a :: rest) = a :: (u.walk (u.children a) ++ u.walk rest) := by
  rw [walk_step, walk_append]

/-- All values strictly below a value, in pre-order. -/
def below (u : Unfolding α) (a : α) : List α := u.walk (u.children a)

/-- A value and all below it, in pre-order. -/
def visit (u : Unfolding α) (a : α) : List α := u.walk [a]

theorem visit_eq (u : Unfolding α) (a : α) : u.visit a = a :: u.below a := by
  simp [visit, below, walk_cons]

/-- A walk visits what each of its values visits, in order. -/
theorem walk_eq_flatMap (u : Unfolding α) (xs : List α) : u.walk xs = xs.flatMap u.visit := by
  induction xs with
  | nil => simp
  | cons x xs ih => rw [walk_cons, List.flatMap_cons, visit_eq, below, ih, List.cons_append]

end Unfolding

end BundleGraph
