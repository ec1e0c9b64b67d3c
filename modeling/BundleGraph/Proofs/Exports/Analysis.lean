import BundleGraph.Exports.Analysis
import BundleGraph.Proofs.Exports.Shapes

/-! # What the analysis of a source answers

    Extractors run in descending order of their priorities (`register_spec`), so
    the names of export statements come before what a CommonJS module exports and
    hands on (`standardRegistry_eq`), whichever is registered first.

    Each extractor looks at the text before it walks over the tree. This loses
    nothing: the text holds the words of its tree, and every export statement holds
    the word `export`, so there is none without this word (`moduleNames_of_no_word`).
    All that a CommonJS module exports is written down somewhere in the tree, and of
    an empty text nothing is (`collected_of_empty`). So the exports are what the
    walks over the tree give, whatever the text (`extractAll_standardRegistry`).

    The dead exports are those that the build does not list as used.
-/

namespace BundleGraph

/-! ### Dead exports -/

namespace Usage

theorem deadExports_sublist (u : Usage) (exports : List String) :
    (u.deadExports exports).Sublist exports := by
  cases u with
  | unknown => exact .refl _
  | allUsed => exact List.nil_sublist _
  | only names => exact List.filter_sublist

theorem mem_deadExports_only {names exports : List String} {e : String} :
    e ∈ (only names).deadExports exports ↔ e ∈ exports ∧ e ∉ names := by
  rw [deadExports, List.mem_filter, decide_eq_true_iff]

/-- The more is used, the less is dead. -/
theorem deadExports_anti {names names' : List String} (h : names ⊆ names')
    (exports : List String) :
    ((only names').deadExports exports).Sublist ((only names).deadExports exports) := by
  refine List.monotone_filter_right exports fun e he => ?_
  rw [decide_eq_true_iff] at he ⊢
  exact fun hmem => he (h hmem)

end Usage

namespace Exports

open Syntax

/-! ### Extractors -/

namespace ExtractorRegistry

/-- The extractors stand in descending order of their priorities. -/
def Descending (r : ExtractorRegistry) : Prop := r.Pairwise fun a b => b.priority ≤ a.priority

theorem perm_place (e : Extractor) (r : ExtractorRegistry) : (place e r).Perm (r ++ [e]) := by
  induction r with
  | nil => exact .refl _
  | cons x r ih =>
    rw [place]
    split
    · exact ih.cons x
    · exact (List.perm_append_singleton e (x :: r)).symm

theorem descending_place (e : Extractor) {r : ExtractorRegistry} (h : r.Descending) :
    (place e r).Descending := by
  induction r with
  | nil => exact List.pairwise_singleton _ _
  | cons x r ih =>
    obtain ⟨hx, hr⟩ := List.pairwise_cons.1 h
    rw [place]
    split
    · rename_i hle
      refine List.pairwise_cons.2 ⟨fun y hy => ?_, ih hr⟩
      rcases List.mem_append.1 ((perm_place e r).mem_iff.1 hy) with hy | hy
      · exact hx y hy
      · rwa [List.mem_singleton.1 hy]
    · rename_i hlt
      refine List.pairwise_cons.2 ⟨List.forall_mem_cons.2 ⟨by omega, fun y hy => ?_⟩, h⟩
      have := hx y hy
      omega

/-- Among those of one priority the new one comes last. -/
theorem filter_place (e : Extractor) {r : ExtractorRegistry} (h : r.Descending) (k : Int) :
    (place e r).filter (fun x => x.priority = k) = (r ++ [e]).filter fun x => x.priority = k := by
  induction r with
  | nil => rfl
  | cons x r ih =>
    obtain ⟨hx, hr⟩ := List.pairwise_cons.1 h
    rw [place]
    split
    · rw [List.cons_append, List.filter_cons, List.filter_cons, ih hr]
    · rename_i hlt
      rw [List.filter_append, List.filter_cons]
      by_cases hk : e.priority = k
      · -- all that it comes before have a lower priority
        have hnone : (x :: r).filter (fun y => y.priority = k) = [] := by
          refine List.filter_eq_nil_iff.2 fun y hy => ?_
          rw [decide_eq_true_iff]
          rcases List.mem_cons.1 hy with rfl | hy
          · omega
          · have := hx y hy
            omega
        simp [hk, hnone]
      · simp [hk]

theorem sort_append (r : ExtractorRegistry) (e : Extractor) :
    sort (r ++ [e]) = place e (sort r) := by
  rw [sort, List.foldl_append]
  rfl

theorem sort_spec (r : ExtractorRegistry) : (sort r).Descending ∧ (sort r).Perm r ∧
    ∀ k, (sort r).filter (fun x => x.priority = k) = r.filter fun x => x.priority = k := by
  induction r using List.reverseRecOn with
  | nil => exact ⟨.nil, .refl _, fun _ => rfl⟩
  | append_singleton r e ih =>
    obtain ⟨hdescending, hperm, hfilter⟩ := ih
    rw [sort_append]
    refine ⟨descending_place e hdescending, ?_, fun k => ?_⟩
    · exact (perm_place e _).trans (hperm.append_right [e])
    · rw [filter_place e hdescending, List.filter_append, hfilter, ← List.filter_append]

/-- **The order of extractors.** Once one more is registered they are in descending order of their
    priorities; none is lost and none is there twice; and those of one priority are in the order in
    which they were registered. -/
theorem register_spec (r : ExtractorRegistry) (e : Extractor) :
    (r.register e).Descending ∧ (r.register e).Perm (r ++ [e]) ∧
      ∀ k, (r.register e).filter (fun x => x.priority = k) =
        (r ++ [e]).filter fun x => x.priority = k :=
  sort_spec (r ++ [e])

end ExtractorRegistry

/-- Export statements are looked for first. -/
theorem standardRegistry_eq : standardRegistry = [statementExtractor, assignmentExtractor] := by
  obtain ⟨hdescending, hperm, -⟩ :=
    ExtractorRegistry.register_spec [statementExtractor] assignmentExtractor
  -- the other order is not a descending one
  rcases List.perm_pair.1 hperm with h | h
  · exact h
  · rw [h] at hdescending
    exact absurd (List.pairwise_pair.1 hdescending) (by decide)

/-! ### Looks at the text -/

section

variable {p : Parsed} (h : p.Faithful)

include h

/-- Every export statement holds the word `export`. -/
theorem occursIn_export {n : Node} (hn : n ∈ p.tree.visit) (hkind : n.kind = .exportStatement) :
    Text.occursIn "export" p.text = true := by
  obtain ⟨e, rest, ⟨before, word, hparts, hword, -⟩, -⟩ := (h.regular n hn).exports hkind
  have hmem : word ∈ n.constituents := by
    rw [hparts]
    exact List.mem_append_right _ List.mem_cons_self
  have hvisit := Node.mem_visit_of_mem_children hn (List.mem_filter.1 hmem).1
  have hinfix := (Node.infix_text hvisit).trans h.source_infix
  rwa [hword.text, ← Text.occursIn_iff] at hinfix

theorem moduleNames_of_no_word (hword : Text.occursIn "export" p.text = false) :
    moduleNames p.tree = [] := by
  rw [moduleNames, List.flatMap_eq_nil_iff]
  intro n hn
  refine if_neg fun hkind => ?_
  rw [occursIn_export h hn hkind] at hword
  cases hword

/-- Nothing is written in the tree of an empty text. -/
theorem keyText_of_empty (hempty : p.text = "") {key : Node} (hkey : key ∈ p.tree.visit) :
    keyText key = "" := by
  have hinfix := (Node.infix_text hkey).trans h.source_infix
  rw [hempty] at hinfix
  have htext : key.text = "" := String.toList_eq_nil_iff.1 (List.infix_nil.1 hinfix)
  unfold keyText stringValue
  rw [htext, ite_eq_left_iff]
  exact fun _ => rfl

theorem collected_of_empty (hempty : p.text = "") : collected p.tree = .empty := by
  have hnames : ∀ n ∈ p.tree.visit, ∀ (R : Node → Prop) names, Lists n R names →
      ∀ s ∈ names, s = "" := by
    rintro n hn R names ⟨keys, hkeys, -, rfl⟩ s hs
    obtain ⟨key, hkey, rfl⟩ := List.mem_map.1 hs
    exact keyText_of_empty h hempty ((hkeys.trans (Node.visit_sublist hn)).subset hkey)
  rw [Collected.eq_empty_iff]
  constructor
  · intro s hs
    obtain ⟨hne, n, hn, hs⟩ := mem_exports_collected.1 hs
    exact hne (hnames n hn _ _ (lists_nodeExports n) s hs)
  · intro s hs
    obtain ⟨hne, n, hn, hs⟩ := mem_reexports_collected.1 hs
    exact hne (hnames n hn _ _ (lists_nodeReexports n) s hs)

/-- The looks at the text lose no name. -/
theorem extractAll_standardRegistry :
    standardRegistry.extractAll p =
      moduleNames p.tree ++ ((collected p.tree).exports ++ (collected p.tree).reexports) := by
  have hstatements : (if statementExtractor.applies p then statementExtractor.extract p else []) =
      moduleNames p.tree :=
    ite_eq_left_iff.2 fun hword => (moduleNames_of_no_word h (Bool.not_eq_true _ ▸ hword)).symm
  have hassigned : (if assignmentExtractor.applies p then assignmentExtractor.extract p else []) =
      (collected p.tree).exports ++ (collected p.tree).reexports := by
    refine ite_eq_left_iff.2 fun hnone => ?_
    have hempty : p.text = "" := by simpa [assignmentExtractor] using hnone
    show [] = (collected p.tree).exports ++ (collected p.tree).reexports
    rw [collected_of_empty h hempty]
    rfl
  rw [standardRegistry_eq, ExtractorRegistry.extractAll, List.flatMap_cons, List.flatMap_singleton,
    hstatements, hassigned]

/-- **The exports of a source, and those of them that are dead.** The exports are what the walks
    over the tree give, each once; the dead ones are all, none or those that are not listed as used.
    -/
theorem analyze_of_faithful :
    ∃ names : List String,
      names = firstOccurrences (moduleNames p.tree ++
        ((collected p.tree).exports ++ (collected p.tree).reexports)) ∧
      names.Nodup ∧
      (∀ u, (analyze p u).exports = names ∧ (analyze p u).deadExports.Sublist names) ∧
      (analyze p .unknown).deadExports = names ∧
      (analyze p .allUsed).deadExports = [] ∧
      (∀ used e, e ∈ (analyze p (.only used)).deadExports ↔ e ∈ names ∧ e ∉ used) ∧
      ∀ used used', used ⊆ used' →
        (analyze p (.only used')).deadExports.Sublist (analyze p (.only used)).deadExports := by
  refine ⟨_, rfl, nodup_firstOccurrences _, ?_⟩
  rw [← extractAll_standardRegistry h]
  refine ⟨fun u => ⟨rfl, u.deadExports_sublist _⟩, rfl, rfl, fun used e => ?_,
    fun used used' hused => ?_⟩
  · exact Usage.mem_deadExports_only
  · exact Usage.deadExports_anti hused _

end

/-- A source that exports one name by a statement, and another one as a CommonJS module. -/
def mixedExports : String := "exports.b = 1; export let a"

/-- The name of the statement comes first, and what is listed as used is not dead. -/
theorem analyze_mixedExports :
    Parsed.Faithful ⟨mixedExports, treeOf .javascript mixedExports⟩ ∧
      (analyze ⟨mixedExports, treeOf .javascript mixedExports⟩ .unknown).deadExports =
        ["a", "b"] ∧
      ∀ e, e ∈ (analyze ⟨mixedExports, treeOf .javascript mixedExports⟩
        (.only ["a"])).deadExports ↔ e = "b" := by
  have hfaithful := faithful_treeOf .javascript mixedExports
  obtain ⟨names, hnames, -, -, hunknown, -, honly, -⟩ := analyze_of_faithful hfaithful
  have hread : moduleNames (treeOf .javascript mixedExports) = ["a"] ∧
      collected (treeOf .javascript mixedExports) = ⟨["b"], []⟩ := by
    decide +kernel
  simp only [hread.1, hread.2] at hnames
  have hnames : names = ["a", "b"] := hnames
  refine ⟨hfaithful, hunknown.trans hnames, fun e => ?_⟩
  rw [honly, hnames]
  simp only [List.mem_cons, List.not_mem_nil, or_false]
  constructor
  · rintro ⟨rfl | rfl, hunused⟩
    · exact absurd rfl hunused
    · rfl
  · rintro rfl
    exact ⟨Or.inr rfl, by decide⟩

end Exports

end BundleGraph
