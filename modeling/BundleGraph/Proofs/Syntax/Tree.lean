import BundleGraph.Proofs.Nesting
import BundleGraph.Syntax.Tree

/-! # Parts and texts of syntax trees

    A tree contains the parts of its nodes (`mem_visit_of_mem_children`), and the
    text of a node is made of the texts of its children and of the gaps between
    them (`exists_gap`, `text_toList_subset`).
-/

namespace BundleGraph.Syntax.Node

/-- Induction on a node that gives the statement for all children. -/
@[elab_as_elim]
theorem induction {motive : Node → Prop}
    (leaf : ∀ role kind gap text, motive (.leaf role kind gap text))
    (branch : ∀ role kind cs, (∀ c ∈ cs, motive c) → motive (.branch role kind cs)) (n : Node) :
    motive n := by
  cases n with
  | leaf role kind gap text => exact leaf role kind gap text
  | branch role kind cs => exact branch role kind cs fun c _ => induction leaf branch c

/-! ### Parts -/

theorem mem_children_of_child? {n c : Node} {r : Role} (h : n.child? r = some c) :
    c ∈ n.children :=
  List.mem_of_find?_eq_some h

theorem role_of_child? {n c : Node} {r : Role} (h : n.child? r = some c) : c.role = some r := by
  have hrole := List.find?_some h
  exact of_decide_eq_true hrole

theorem mem_children_of_mem_namedChildren {n c : Node} (h : c ∈ n.namedChildren) :
    c ∈ n.children :=
  (List.mem_filter.1 h).1

theorem mem_visit_iff {tree n : Node} : n ∈ tree.visit ↔ unfolding.Reaches tree n := by
  rw [visit, Unfolding.visit, Unfolding.mem_walk_iff]
  simp only [List.mem_singleton, exists_eq_left]

theorem mem_visit_self (n : Node) : n ∈ n.visit := mem_visit_iff.2 (.here n)

theorem mem_visit_of_mem_children {tree n c : Node} (hn : n ∈ tree.visit) (hc : c ∈ n.children) :
    c ∈ tree.visit :=
  mem_visit_iff.2 ((mem_visit_iff.1 hn).trans (.down hc (.here c)))

/-- A node is visited first, then its children are visited in order. -/
theorem visit_eq (n : Node) : n.visit = n :: n.children.flatMap visit := by
  show unfolding.visit n = _
  rw [Unfolding.visit_eq, Unfolding.below, Unfolding.walk_eq_flatMap]
  rfl

/-- The visit to a part is within the visit to the whole. -/
theorem visit_sublist {tree n : Node} (h : n ∈ tree.visit) : n.visit.Sublist tree.visit := by
  rw [mem_visit_iff] at h
  induction h with
  | here => exact .refl _
  | @down m c t hc _ ih =>
    have hchild : c.visit.Sublist (m.children.flatMap visit) := by
      have hsingle := (List.singleton_sublist.2 hc).flatMap visit
      rwa [List.flatMap_singleton] at hsingle
    rw [visit_eq m]
    exact (ih.trans hchild).cons m

/-! ### Texts -/

theorem textOfAll_cons (n : Node) (ns : List Node) :
    textOfAll false (n :: ns) = n.source ++ textOfAll false ns := by
  rw [textOfAll, source]

theorem textOfAll_append (xs ys : List Node) :
    textOfAll false (xs ++ ys) = textOfAll false xs ++ textOfAll false ys := by
  induction xs with
  | nil => rw [List.nil_append, textOfAll, String.empty_append]
  | cons x xs ih => rw [List.cons_append, textOfAll_cons, textOfAll_cons, ih, String.append_assoc]

/-- The text of a node starts at its first child. -/
theorem text_branch_cons (role : Option Role) (kind : Kind) (n : Node) (ns : List Node) :
    (branch role kind (n :: ns)).text = n.text ++ textOfAll false ns := by
  rw [text, textFrom, textOfAll, text]

theorem source_branch (role : Option Role) (kind : Kind) (ns : List Node) :
    (branch role kind ns).source = textOfAll false ns := by
  rw [source, textFrom]

/-- The gap before a node is all that is left out of its text. -/
theorem exists_gap : (n : Node) → ∃ gap, n.source = gap ++ n.text
  | .leaf _ _ gap _ => ⟨gap, rfl⟩
  | .branch _ _ [] => ⟨"", rfl⟩
  | .branch _ _ (c :: cs) => by
    obtain ⟨gap, hgap⟩ := exists_gap c
    refine ⟨gap, ?_⟩
    rw [source_branch, textOfAll_cons, text_branch_cons, hgap, String.append_assoc]

theorem toList_text_subset_textOfAll {c : Node} {cs : List Node} (hc : c ∈ cs) :
    c.text.toList ⊆ (textOfAll false cs).toList := by
  induction cs with
  | nil => cases hc
  | cons x cs ih =>
    rw [textOfAll_cons, String.toList_append]
    rcases List.mem_cons.1 hc with rfl | hc
    · obtain ⟨gap, hgap⟩ := c.exists_gap
      rw [hgap, String.toList_append]
      exact List.subset_append_of_subset_left _ (List.subset_append_right _ _)
    · exact List.subset_append_of_subset_right _ (ih hc)

/-- The text of a node contains the characters of its children. -/
theorem toList_text_subset {n c : Node} (hc : c ∈ n.children) : c.text.toList ⊆ n.text.toList := by
  cases n with
  | leaf => cases hc
  | branch role kind cs =>
    cases cs with
    | nil => cases hc
    | cons x cs =>
      rw [text_branch_cons, String.toList_append]
      rcases List.mem_cons.1 hc with rfl | hc
      · exact List.subset_append_left _ _
      · exact List.subset_append_of_subset_right _ (toList_text_subset_textOfAll hc)

/-- What a node is written as stands in one piece in the whole. -/
theorem infix_source {tree n : Node} (h : n ∈ tree.visit) :
    n.source.toList <:+: tree.source.toList := by
  rw [mem_visit_iff] at h
  induction h with
  | here => exact List.infix_refl _
  | @down m c t hc _ ih =>
    refine ih.trans ?_
    cases m with
    | leaf => cases hc
    | branch role kind cs =>
      obtain ⟨xs, ys, rfl⟩ := List.append_of_mem hc
      rw [source_branch, textOfAll_append, textOfAll_cons, String.toList_append,
        String.toList_append, ← List.append_assoc]
      exact List.infix_append _ _ _

theorem infix_text {tree n : Node} (h : n ∈ tree.visit) :
    n.text.toList <:+: tree.source.toList := by
  obtain ⟨gap, hgap⟩ := n.exists_gap
  refine List.IsInfix.trans ?_ (infix_source h)
  rw [hgap, String.toList_append]
  exact (List.suffix_append _ _).isInfix

end BundleGraph.Syntax.Node
