import BundleGraph.Exports.Names
import BundleGraph.Proofs.Nesting
import BundleGraph.Syntax.Parse

/-! # Names from inner scopes

    An export statement at the top level of a source exports from the module,
    one in the body of a namespace or of a declared module exports from that
    body. The names of a module do not tell them apart: they are those of all
    export statements at any depth, each statement at the top level followed by
    what is nested in it (`moduleNames_program`).

    So the names are those of the top level alone only if nothing that is nested
    names anything, and the bodies of inner scopes are transparent: their
    statements could as well stand at the top level.
-/

namespace BundleGraph.Exports

open Syntax

/-! ### Own names and inner names -/

/-- The names that a statement exports itself. -/
def ownNames (n : Node) : List String :=
  if n.kind = .exportStatement then statementNames n else []

/-- The names that the export statements nested in a statement export, at any depth. -/
def innerNames (n : Node) : List String := (Node.unfolding.below n).flatMap ownNames

theorem moduleNames_eq (n : Node) : moduleNames n = ownNames n ++ innerNames n := by
  show (Node.unfolding.visit n).flatMap ownNames = _
  rw [Unfolding.visit_eq, List.flatMap_cons, innerNames]

/-- What is nested in a node is what its children export and what is nested in them. -/
theorem innerNames_eq (n : Node) : innerNames n = n.children.flatMap moduleNames := by
  show (Node.unfolding.walk n.children).flatMap ownNames = _
  rw [Unfolding.walk_eq_flatMap, List.flatMap_assoc]
  rfl

theorem ownNames_of_ne {n : Node} (h : n.kind ≠ .exportStatement) : ownNames n = [] := if_neg h

/-- A node that is no export statement exports what its children do. -/
theorem moduleNames_of_ne {n : Node} (h : n.kind ≠ .exportStatement) :
    moduleNames n = n.children.flatMap moduleNames := by
  rw [moduleNames_eq, ownNames_of_ne h, innerNames_eq, List.nil_append]

theorem innerNames_eq_nil_iff {n : Node} :
    innerNames n = [] ↔
      ∀ x ∈ Node.unfolding.below n, x.kind = .exportStatement → statementNames x = [] := by
  rw [innerNames, List.flatMap_eq_nil_iff]
  simp only [ownNames, ite_eq_right_iff]

/-! ### Lists in which something is put in between -/

section between

variable {α β : Type} (f g : α → List β)

theorem sublist_flatMap_append (xs : List α) :
    (xs.flatMap f).Sublist (xs.flatMap fun x => f x ++ g x) := by
  induction xs with
  | nil => exact .slnil
  | cons x xs ih =>
    rw [List.flatMap_cons, List.flatMap_cons]
    exact (List.sublist_append_left _ _).append ih

/-- What is put in between does not show only if it is nothing. -/
theorem flatMap_append_eq_iff (xs : List α) :
    (xs.flatMap fun x => f x ++ g x) = xs.flatMap f ↔ ∀ x ∈ xs, g x = [] := by
  induction xs with
  | nil => simp
  | cons x xs ih =>
    rw [List.flatMap_cons, List.flatMap_cons, List.forall_mem_cons, ← ih, List.append_assoc,
      List.append_cancel_left_eq]
    constructor
    · intro h
      -- the rest is not shorter with something in between, so nothing stands before it
      have hshorter := (sublist_flatMap_append f g xs).length_le
      have hlength := congrArg List.length h
      rw [List.length_append] at hlength
      have hnone : g x = [] := List.eq_nil_of_length_eq_zero (by omega)
      rw [hnone, List.nil_append] at h
      exact ⟨hnone, h⟩
    · intro h
      rw [h.1, h.2, List.nil_append]

end between

/-! ### Programs -/

/-- **Names from inner scopes.** The names of a program are those of its statements in order, each
    followed by the names of all export statements nested in it, at any depth. All names of the top
    level are among them, in their order. They are the names of the top level alone exactly if no
    nested export statement names anything. And the body of a scope is transparent: put in the place
    of the scope, what the scope is made of gives the same names. -/
theorem moduleNames_program (role : Option Role) (statements : List Node) :
    moduleNames (.branch role .program statements) =
      statements.flatMap (fun n => ownNames n ++ innerNames n) ∧
    (statements.flatMap ownNames).Sublist (moduleNames (.branch role .program statements)) ∧
    (moduleNames (.branch role .program statements) = statements.flatMap ownNames ↔
      ∀ n ∈ statements, ∀ x ∈ Node.unfolding.below n,
        x.kind = .exportStatement → statementNames x = []) ∧
    ∀ before scope after, statements = before ++ scope :: after →
      scope.kind ≠ .exportStatement →
        moduleNames (.branch role .program statements) =
          moduleNames (.branch role .program (before ++ scope.children ++ after)) := by
  have hprogram : ∀ ns : List Node,
      moduleNames (.branch role .program ns) = ns.flatMap moduleNames :=
    fun ns => moduleNames_of_ne (n := .branch role .program ns) nofun
  have hnames : moduleNames (.branch role .program statements) =
      statements.flatMap fun n => ownNames n ++ innerNames n := by
    rw [hprogram, funext moduleNames_eq]
  refine ⟨hnames, ?_, ?_, ?_⟩
  · rw [hnames]
    exact sublist_flatMap_append ownNames innerNames statements
  · rw [hnames, flatMap_append_eq_iff]
    simp only [innerNames_eq_nil_iff]
  · intro before scope after hstatements hscope
    rw [hstatements, hprogram, hprogram, List.flatMap_append, List.flatMap_append,
      List.flatMap_append, List.flatMap_cons, moduleNames_of_ne hscope, List.append_assoc]

/-- The name that a namespace exports comes among those of the module. -/
example : moduleNames (treeOf .typescript "namespace N {export let x} export let y") =
    ["x", "y"] := by
  decide +kernel

end BundleGraph.Exports
