import BundleGraph.Graph.Importers
import Mathlib.Data.List.Flatten
import Mathlib.Data.List.Forall2

/-! # Nesting

    What a walk visits, as a relation. `Unfolding.Reaches` is reached by
    unfolding a value any number of times, and a walk visits exactly that.

    For modules there are two such relations. `Module.StandsFor` goes through
    wrappers only: it says what a module at the top level of a chunk stands
    for. `Module.Holds` goes through every module: it says what is nested in a
    wrapper.
-/

namespace BundleGraph

/-! ### Walks in general -/

namespace Unfolding

variable {α : Type} [SizeOf α]

/-- `u.Reaches a x`: unfolding `a` any number of times leads to `x`. -/
inductive Reaches (u : Unfolding α) : α → α → Prop where
  | here (a : α) : Reaches u a a
  | down {a b x : α} (hb : b ∈ u.children a) (hx : Reaches u b x) : Reaches u a x

theorem reaches_iff {u : Unfolding α} {a x : α} :
    u.Reaches a x ↔ x = a ∨ ∃ b ∈ u.children a, u.Reaches b x := by
  constructor
  · intro h
    cases h with
    | here => exact Or.inl rfl
    | down hb hx => exact Or.inr ⟨_, hb, hx⟩
  · intro h
    rcases h with rfl | ⟨b, hb, hx⟩
    · exact .here x
    · exact .down hb hx

theorem Reaches.trans {u : Unfolding α} {a b x : α} (hb : u.Reaches a b) (hx : u.Reaches b x) :
    u.Reaches a x := by
  induction hb with
  | here => exact hx
  | down hchild _ ih => exact .down hchild (ih hx)

/-- A walk visits what its values reach, and nothing else. -/
theorem mem_walk_iff (u : Unfolding α) (pending : List α) (x : α) :
    x ∈ u.walk pending ↔ ∃ a ∈ pending, u.Reaches a x := by
  match pending with
  | [] => simp
  | a :: rest =>
    -- the walk goes on with the children of `a` and then with the rest; both are smaller
    have := u.smaller a
    have hchildren := u.mem_walk_iff (u.children a) x
    have hrest := u.mem_walk_iff rest x
    rw [walk_cons, List.mem_cons, List.mem_append, hchildren, hrest, ← or_assoc, ← reaches_iff]
    simp only [List.mem_cons, exists_eq_or_imp]
termination_by sizeOf pending
decreasing_by
  all_goals
    rw [List.cons.sizeOf_spec]
    omega

theorem mem_below_iff (u : Unfolding α) (a x : α) :
    x ∈ u.below a ↔ ∃ b ∈ u.children a, u.Reaches b x :=
  u.mem_walk_iff (u.children a) x

theorem sublist_walk_of_sublist (u : Unfolding α) {xs ys : List α} (h : xs.Sublist ys) :
    (u.walk xs).Sublist (u.walk ys) := by
  rw [walk_eq_flatMap, walk_eq_flatMap]
  exact h.flatMap u.visit

/-- Where values unfold into fewer values, the walk leaves values out and keeps the order. -/
theorem sublist_walk {u v : Unfolding α} (h : ∀ a, (u.children a).Sublist (v.children a))
    (pending : List α) : (u.walk pending).Sublist (v.walk pending) := by
  match pending with
  | [] =>
    rw [walk_nil, walk_nil]
  | a :: rest =>
    have := u.smaller a
    have hbelow : (u.walk (u.children a)).Sublist (v.walk (v.children a)) :=
      (sublist_walk h (u.children a)).trans (v.sublist_walk_of_sublist (h a))
    rw [walk_cons, walk_cons]
    exact (hbelow.append (sublist_walk h rest)).cons_cons a
termination_by sizeOf pending
decreasing_by
  all_goals
    rw [List.cons.sizeOf_spec]
    omega

/-- Values that are related, and unfold into values that are related, are visited side by side. -/
theorem forall₂_walk {β : Type} [SizeOf β] {R : α → β → Prop} {u : Unfolding α} {v : Unfolding β}
    (hR : ∀ {a b}, R a b → List.Forall₂ R (u.children a) (v.children b)) {xs : List α}
    {ys : List β} (h : List.Forall₂ R xs ys) : List.Forall₂ R (u.walk xs) (v.walk ys) := by
  match xs, ys, h with
  | [], [], .nil =>
    rw [walk_nil, walk_nil]
    exact .nil
  | a :: rest, b :: others, .cons hab hrest =>
    have := u.smaller a
    rw [walk_cons, walk_cons]
    exact .cons hab (List.rel_append (forall₂_walk hR (hR hab)) (forall₂_walk hR hrest))
termination_by sizeOf xs
decreasing_by
  all_goals
    rw [List.cons.sizeOf_spec]
    omega

end Unfolding

/-! ### What a chunk carries -/

/-- `m.StandsFor x`: `x` is `m`, or `m` is a wrapper and something directly in it stands for `x`. -/
inductive Module.StandsFor : Module → Module → Prop where
  | itself (m : Module) : StandsFor m m
  | inside {w m x : Module} (wrapper : w.kind = .concatenated) (hm : m ∈ w.subModules)
      (hx : StandsFor m x) : StandsFor w x

/-- `c.Carries m`: a module at the top level of the chunk stands for `m`. -/
def Chunk.Carries (c : Chunk) (m : Module) : Prop := ∃ top ∈ c.modules, top.StandsFor m

@[simp] theorem Module.isWrapper_iff {m : Module} :
    m.isWrapper = true ↔ m.kind = .concatenated := by
  simp [Module.isWrapper]

theorem Module.mem_children_carried {w m : Module} :
    m ∈ Module.carried.children w ↔ w.kind = .concatenated ∧ m ∈ w.subModules := by
  by_cases hw : w.kind = .concatenated <;> simp [Module.carried, Module.isWrapper, hw]

theorem Module.reaches_carried_iff {m x : Module} :
    Module.carried.Reaches m x ↔ m.StandsFor x := by
  constructor
  · intro h
    induction h with
    | here m => exact .itself m
    | down hb _ ih =>
      obtain ⟨hw, hm⟩ := Module.mem_children_carried.1 hb
      exact .inside hw hm ih
  · intro h
    induction h with
    | itself m => exact .here m
    | inside hw hm _ ih => exact .down (Module.mem_children_carried.2 ⟨hw, hm⟩) ih

theorem Chunk.mem_carried_iff {c : Chunk} {m : Module} : m ∈ c.carried ↔ c.Carries m := by
  rw [Chunk.carried, Unfolding.mem_walk_iff]
  simp only [Module.reaches_carried_iff]
  rfl

/-! ### What is nested in a module -/

/-- `m.Holds x`: `x` is nested in `m`, at whatever depth. -/
inductive Module.Holds : Module → Module → Prop where
  | directly {m x : Module} (hx : x ∈ m.subModules) : Holds m x
  | deeper {m y x : Module} (hy : y ∈ m.subModules) (hx : Holds y x) : Holds m x

theorem Module.reaches_parts_iff {m x : Module} :
    Module.parts.Reaches m x ↔ x = m ∨ m.Holds x := by
  constructor
  · intro h
    induction h with
    | here => exact Or.inl rfl
    | down hb _ ih =>
      rcases ih with rfl | ih
      · exact Or.inr (.directly hb)
      · exact Or.inr (.deeper hb ih)
  · intro h
    rcases h with rfl | h
    · exact .here x
    · induction h with
      | directly hx => exact .down hx (.here _)
      | deeper hy _ ih => exact .down hy ih

theorem Module.mem_nested_iff {m x : Module} : x ∈ m.nested ↔ m.Holds x := by
  rw [Module.nested, Unfolding.mem_below_iff]
  constructor
  · intro h
    obtain ⟨y, hy, hx⟩ := h
    rcases Module.reaches_parts_iff.1 hx with rfl | hx
    · exact .directly hy
    · exact .deeper hy hx
  · intro h
    cases h with
    | directly hx => exact ⟨x, hx, .here x⟩
    | deeper hy hx => exact ⟨_, hy, Module.reaches_parts_iff.2 (Or.inr hx)⟩

/-- The names inside a wrapper are its own and those of everything nested in it, at any depth. -/
theorem Module.mem_insideNames_iff {w : Module} {name : String} :
    name ∈ w.insideNames ↔ name = w.fileName ∨ ∃ m, w.Holds m ∧ m.fileName = name := by
  simp only [insideNames, List.mem_cons, List.mem_map, mem_nested_iff]

end BundleGraph
