import BundleGraph.Proofs.Syntax.Grammar.Statements
import BundleGraph.Syntax.Parse

/-! # What is known of the tree of a source

    Each rule reads reliably if those that it refers to do (`Reliable.step`), so
    rules that refer to each other to any depth do (`reliable_upTo`). What stands
    at the top of a source is read in a row from its beginning to its end, so the
    tree of a source loses nothing (`source_treeOf`) and all of its nodes are
    regular (`regular_treeOf`).
-/

namespace BundleGraph.Syntax

open Exports

/-! ### The rules together -/

/-- The step of the induction: parsers that use reliable ones are reliable. -/
theorem Grammar.Reliable.step {g : Grammar} (hg : g.Reliable) :
    Grammar.Reliable (Grammar.step g) where
  named
    | .statement => Grammar.reads_statement hg
    | .declaration => (Grammar.reads_declaration hg).mono fun _ h => h.toIsNamed
    | .block => (Grammar.reads_block hg).mono fun _ h => h.isNamed (by decide)
    | .expression => Grammar.reads_expression hg
    | .assignment => Grammar.reads_assignment hg true
    | .beforeColon => Grammar.reads_assignment hg false
    | .operand typed => Grammar.reads_operand hg typed
    | .chain => Grammar.reads_chain hg
    | .constructed => Grammar.reads_constructed hg
    | .decorated => Grammar.reads_decorated hg
    | .pattern => Grammar.reads_pattern hg
    | .classBody => Grammar.reads_classBody hg
    | .markup => Grammar.reads_markup hg
    | .type => (Grammar.reads_type hg).mono fun _ h => h.isNamed
    | .primaryType => (Grammar.reads_primaryType hg).mono fun _ h => h.isNamed
    | .typeArguments => Grammar.reads_typeArgumentList hg
  declaration := Grammar.reads_declaration hg
  block := Grammar.reads_block hg
  type := Grammar.reads_type hg
  primaryType := Grammar.reads_primaryType hg

/-- Rules are reliable to any depth, by induction on the depth. -/
theorem Grammar.reliable_upTo (n : Nat) : Grammar.Reliable (Grammar.upTo n) := by
  induction n with
  | zero => exact ⟨fun _ => .failure, .failure, .failure, .failure, .failure⟩
  | succ n ih => exact ih.step

/-! ### Programs -/

theorem forward_anyWordEnd? : Source.Forward anyWordEnd? := by
  intro s i j h
  have hname := Source.forward_nameEnd? s i j
  grind [anyWordEnd?]

theorem forward_unendedEnd? : Source.Forward unendedEnd? := by
  intro s i j h
  have hinside : ∀ c, s.at? i = some c → i < s.chars.size := fun c => Source.lt_size_of_at?
  have hcomment := @Source.at?_of_startsWith s '/' ['*'] i
  grind [unendedEnd?]

theorem reads_topLevel {g : Grammar} (hg : g.Reliable) : Reads (topLevel g) Any := by
  refine .firstOf_cons ?_ (.firstOf_cons (hg.named .statement).toAny (.firstOf_cons ?_
    (.firstOf_cons ?_ .firstOf_nil)))
  · exact (reads_leaf Source.forward_htmlCommentEnd? (by decide)).toAny
  · exact (reads_leaf forward_unendedEnd? (by decide)).toAny
  · exact (reads_leaf forward_anyWordEnd? (by decide)).toAny

/-- Nodes that stand in a row between two places, all of them regular. -/
structure Stands (s : Source) (i : Nat) (ns : List Node) (j : Nat) : Prop where
  le : i ≤ j
  text : Node.textOfAll false ns = s.slice i j
  regular : ∀ n ∈ ns, ∀ x ∈ n.visit, x.Regular

namespace Stands

variable {s : Source} {i j k : Nat} {xs ys : List Node}

theorem append (hx : Stands s i xs k) (hy : Stands s k ys j) : Stands s i (xs ++ ys) j where
  le := Nat.le_trans hx.le hy.le
  text := by
    rw [Node.textOfAll_append, hx.text, hy.text, Source.slice_append hx.le hy.le]
  regular := List.forall_mem_append.2 ⟨hx.regular, hy.regular⟩

theorem of_row {ps : List Piece} (h : Row s i ps j) : Stands s i (ps.flatMap Piece.nodes) j where
  le := h.le
  text := h.text
  regular := fun _ hn _ hx => by
    obtain ⟨p, hp, hn⟩ := List.mem_flatMap.1 hn
    exact (h.sound p hp).regular_of_mem_nodes hn hx

end Stands

theorem visit_of_isComment {c : Node} (h : c.isComment = true) : ∀ x ∈ c.visit, x.Regular := by
  rw [Node.visit_eq, (Node.isComment_spec h).2.2.1, List.flatMap_nil, List.forall_mem_singleton]
  exact Node.regular_of_isComment h

/-- The line that names the program to run is a comment. -/
theorem stands_firstLine {s : Source} {j : Nat} {ps : List Piece}
    (h : atMostOne firstLine s 0 = some (ps, j)) : Stands s 0 (ps.flatMap Piece.nodes) j := by
  rcases orElse_parser_eq_some h with h | h
  · obtain ⟨p, hp, rfl⟩ := map_parser_eq_some h
    dsimp only [firstLine, adjacent] at hp
    split at hp
    · rename_i k hk
      obtain ⟨rfl, rfl⟩ := Prod.mk.inj (Option.some.inj hp)
      rw [Option.ite_none_right_eq_some, Bool.and_eq_true] at hk
      obtain ⟨⟨-, hstart⟩, hk⟩ := hk
      have hmark := Source.at?_of_startsWith hstart
      have hlt : 0 < k := by
        rw [← Option.some.inj hk]
        refine Source.lt_skip ?_
        rw [Source.test, hmark]
        decide
      have hcomment : (Node.leaf none .comment "" (s.slice 0 k)).isComment = true := by
        rw [Node.isComment, Source.slice_cons hmark hlt]
        rfl
      refine ⟨Nat.zero_le k, ?_, List.forall_mem_singleton.2 (visit_of_isComment hcomment)⟩
      show Node.textOfAll false [Node.leaf none .comment "" (s.slice 0 k)] = _
      rw [Node.textOfAll_cons, Node.textOfAll, Node.source, Node.textFrom,
        if_neg Bool.false_ne_true, String.empty_append, String.append_empty]
    · cases hp
  · obtain ⟨rfl, rfl⟩ := pure_parser_eq_some h
    exact ⟨Nat.le_refl 0, (s.slice_self 0).symm, List.forall_mem_nil _⟩

/-- What is left behind a place holds all characters from there on. -/
theorem atEnd_spec {s : Source} {i j : Nat} {ns : List Node} (h : atEnd s i = some (ns, j)) :
    Node.textOfAll false ns = s.slice i s.chars.size ∧ ∀ n ∈ ns, ∀ x ∈ n.visit, x.Regular := by
  obtain ⟨hle, htext, hcomments⟩ := s.gap_spec i
  dsimp only [atEnd] at h
  obtain ⟨rfl, rfl⟩ := Prod.mk.inj (Option.some.inj h)
  have hleaf : ∀ x ∈ (Node.leaf none .token (s.gap i).blank
      (s.slice (s.gap i).stop s.chars.size)).visit, x.Regular := by
    rw [Node.visit_eq]
    exact List.forall_mem_singleton.2 (Node.regular_of_kind (by simp [Node.kind, tellingKinds]))
  rw [Node.textOfAll_append, List.forall_mem_append]
  refine ⟨?_, fun c hc => visit_of_isComment (hcomments c hc), ?_⟩
  · rw [← Source.slice_append_size hle, ← htext, String.append_assoc]
    split
    · rename_i hnone
      rw [hnone.1, hnone.2, Node.textOfAll]
      rfl
    · rw [Node.textOfAll_cons, Node.textOfAll, String.append_empty, Node.source, Node.textFrom,
        if_neg Bool.false_ne_true]
  · split
    · exact List.forall_mem_nil _
    · exact List.forall_mem_singleton.2 hleaf

/-- The tree of a program holds all of its characters, and its nodes are regular. -/
theorem program_spec {g : Grammar} (hg : g.Reliable) {s : Source} {tree : Node} {j : Nat}
    (h : program g s 0 = some (tree, j)) :
    tree.source = s.slice 0 s.chars.size ∧ ∀ x ∈ tree.visit, x.Regular := by
  obtain ⟨line, i, hline, h⟩ := bind_parser_eq_some h
  obtain ⟨ps, k, hps, h⟩ := bind_parser_eq_some h
  obtain ⟨ending, m, hending, h⟩ := bind_parser_eq_some h
  obtain ⟨rfl, rfl⟩ := pure_parser_eq_some h
  have hrow := ((reads_topLevel hg).many.row hps).1
  rw [pieces_list] at hrow
  have hstands := (stands_firstLine hline).append (.of_row hrow)
  obtain ⟨htext, hregular⟩ := atEnd_spec hending
  rw [← List.flatMap_append] at hstands
  constructor
  · rw [Node.source_branch, Node.textOfAll_append, hstands.text, htext]
    exact Source.slice_append_size hstands.le
  · rw [Node.visit_eq, List.forall_mem_cons]
    refine ⟨Node.regular_of_kind (by simp [Node.kind, tellingKinds]), fun x hx => ?_⟩
    obtain ⟨n, hn, hx⟩ := List.mem_flatMap.1 hx
    exact List.forall_mem_append.2 ⟨hstands.regular, hregular⟩ n hn x hx

/-! ### Sources -/

theorem source_errorTree (text : String) : (errorTree text).source = text := by
  simp [errorTree, Node.source, Node.textFrom, Node.textOfAll]

/-- What the rules give for a text, or one error. -/
theorem treeOf_spec (dialect : Dialect) (text : String) :
    (treeOf dialect text).source = text ∧ ∀ x ∈ (treeOf dialect text).visit, x.Regular := by
  rw [treeOf]
  split
  · rename_i tree j h
    obtain ⟨hsource, hregular⟩ := program_spec (Grammar.reliable_upTo _) h
    refine ⟨?_, hregular⟩
    rw [hsource, Source.slice, Array.extract_size, String.ofList_toList]
  · refine ⟨source_errorTree text, ?_⟩
    rw [errorTree, Node.visit_eq, List.forall_mem_cons]
    refine ⟨Node.regular_of_kind (by simp [Node.kind, tellingKinds]), fun x hx => ?_⟩
    obtain ⟨n, hn, hx⟩ := List.mem_flatMap.1 hx
    rw [List.mem_singleton.1 hn, Node.visit_eq] at hx
    rw [List.mem_singleton.1 hx]
    exact Node.regular_of_kind (by simp [Node.kind, tellingKinds])

/-- The tree of a source loses nothing. -/
theorem source_treeOf (dialect : Dialect) (text : String) :
    (treeOf dialect text).source = text :=
  (treeOf_spec dialect text).1

/-- All nodes of the tree of a source are regular. -/
theorem regular_treeOf (dialect : Dialect) (text : String) :
    ∀ x ∈ (treeOf dialect text).visit, x.Regular :=
  (treeOf_spec dialect text).2

theorem faithful_treeOf (dialect : Dialect) (text : String) :
    Parsed.Faithful ⟨text, treeOf dialect text⟩ where
  source_infix := by simp only [source_treeOf, List.infix_refl]
  regular := regular_treeOf dialect text

end BundleGraph.Syntax
