import BundleGraph.Artifact
import BundleGraph.Sizes.Report

/-! # Pre-order by recursion

    A walk keeps a list of pending values, so the depth of a tree does not matter
    to it. What it visits is written here by recursion on the tree: a value,
    then all below it, then its right neighbours.

    These equations have one solution (`Unfolding.eq_walk`), so whatever goes on
    in this way is the walk.
-/

namespace BundleGraph

/-- The walk is the only function that lists a value before what it lists for its children, and
    both before what it lists for the values that are pending. -/
theorem Unfolding.eq_walk {α : Type} [SizeOf α] (u : Unfolding α) {list : List α → List α}
    (hnil : list [] = [])
    (hcons : ∀ a rest, list (a :: rest) = a :: (list (u.children a) ++ list rest))
    (pending : List α) : list pending = u.walk pending := by
  match pending with
  | [] => rw [hnil, walk_nil]
  | a :: rest =>
    -- the children are smaller than the value that they replace
    have := u.smaller a
    rw [hcons, walk_cons, u.eq_walk hnil hcons (u.children a), u.eq_walk hnil hcons rest]
termination_by sizeOf pending
decreasing_by
  all_goals
    rw [List.cons.sizeOf_spec]
    omega

/-! ### Modules of a chunk -/

namespace Module

mutual

/-- A module, and after a wrapper all that it stands for. -/
def preorder : Module → List Module
  | ⟨id, fileName, kind, sizes, exports, dead, commonJS, subModules, reasons⟩ =>
    ⟨id, fileName, kind, sizes, exports, dead, commonJS, subModules, reasons⟩ ::
      if kind = .concatenated then preorderAll subModules else []

/-- Modules from left to right, and after each wrapper all that it stands for. -/
def preorderAll : List Module → List Module
  | [] => []
  | m :: rest => m.preorder ++ preorderAll rest

end

theorem preorder_eq (m : Module) :
    m.preorder = m :: if m.kind = .concatenated then preorderAll m.subModules else [] := by
  cases m
  rw [preorder]

theorem preorderAll_eq_walk (ms : List Module) : preorderAll ms = carried.walk ms := by
  refine carried.eq_walk (by rw [preorderAll]) (fun m rest => ?_) ms
  rw [preorderAll, preorder_eq, List.cons_append]
  by_cases hm : m.kind = .concatenated
  · simp [carried, isWrapper, hm]
  · simp [carried, isWrapper, hm, preorderAll]

end Module

/-- What a chunk carries is listed by recursion on its modules. -/
theorem Chunk.carried_eq (c : Chunk) : c.carried = Module.preorderAll c.modules :=
  (Module.preorderAll_eq_walk c.modules).symm

/-! ### Groups of a size report -/

namespace Sizes.Entry

mutual

/-- A group, then all groups within it. -/
def preorder : Entry → List Entry
  | ⟨label, path, stat, parsed, gzip, concatenated, groups⟩ =>
    ⟨label, path, stat, parsed, gzip, concatenated, groups⟩ :: preorderAll groups

/-- Groups from left to right, each before all groups within it. -/
def preorderAll : List Entry → List Entry
  | [] => []
  | g :: rest => g.preorder ++ preorderAll rest

end

theorem preorder_eq (g : Entry) : g.preorder = g :: preorderAll g.groups := by
  cases g
  rw [preorder]

theorem preorderAll_eq_walk (groups : List Entry) : preorderAll groups = parts.walk groups := by
  refine parts.eq_walk (by rw [preorderAll]) (fun g rest => ?_) groups
  rw [preorderAll, preorder_eq, List.cons_append]
  rfl

end Sizes.Entry

end BundleGraph
