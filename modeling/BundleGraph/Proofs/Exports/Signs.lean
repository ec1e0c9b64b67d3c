import BundleGraph.Exports.Analysis
import BundleGraph.Proofs.OrderedMap
import BundleGraph.Proofs.Syntax.Tree

/-! # Signs and names

    Two questions are asked of a tree: whether it is that of a CommonJS module,
    and what it exports as one. The answers should agree: a tree that exports
    something has a sign of such a module.

    All assignments that export something are signs, however they are written,
    and so are the calls of `require` from which something is handed on. A call
    of `Object.defineProperty` is one only if the text of its first argument is
    `exports` or `module.exports`, while its name counts whenever the tree of
    that argument says so. So one thing is exported without a sign: a member
    that is defined on `module.exports`, where something besides the dot stands
    between the two words (`DefinesUnseen`). The two answers agree on a tree exactly
    if it defines nothing in this way (`collected_without_sign`).
-/

namespace BundleGraph.Exports

open Syntax

/-! ### What a tree exports -/

namespace Collected

theorem mem_exports_distinct {c : Collected} {s : String} :
    s ∈ c.distinct.exports ↔ s ∈ c.exports ∧ s ≠ "" := by
  rw [distinct, mem_firstOccurrences, List.mem_filter, decide_eq_true_eq]

theorem mem_reexports_distinct {c : Collected} {s : String} :
    s ∈ c.distinct.reexports ↔ s ∈ c.reexports ∧ s ≠ "" := by
  rw [distinct, mem_firstOccurrences, List.mem_filter, decide_eq_true_eq]

theorem eq_empty_iff {c : Collected} :
    c = .empty ↔ (∀ s, s ∉ c.exports) ∧ ∀ s, s ∉ c.reexports := by
  rw [← List.eq_nil_iff_forall_not_mem, ← List.eq_nil_iff_forall_not_mem]
  cases c
  rw [empty, mk.injEq]

end Collected

/-- A tree exports the names that its nodes export, other than the empty one. -/
theorem mem_exports_collected {tree : Node} {s : String} :
    s ∈ (collected tree).exports ↔ s ≠ "" ∧ ∃ n ∈ tree.visit, s ∈ (nodeExports n).exports := by
  rw [collected, Collected.mem_exports_distinct, and_comm]
  simp only [Collected.all, List.mem_flatMap, List.mem_map, exists_exists_and_eq_and]

theorem mem_reexports_collected {tree : Node} {s : String} :
    s ∈ (collected tree).reexports ↔ s ≠ "" ∧ ∃ n ∈ tree.visit, s ∈ (nodeExports n).reexports := by
  rw [collected, Collected.mem_reexports_distinct, and_comm]
  simp only [Collected.all, List.mem_flatMap, List.mem_map, exists_exists_and_eq_and]

theorem isCommonJs_iff {tree : Node} :
    isCommonJs tree = true ↔ ∃ n ∈ tree.visit, isSign n = true :=
  List.any_eq_true

/-! ### Shapes -/

theorem childIs_iff {n : Node} {r : Role} {p : Node → Bool} :
    childIs n r p = true ↔ ∃ c, n.child? r = some c ∧ p c = true :=
  Option.any_eq_true p (n.child? r)

theorem isIdentifier_iff {name : String} {n : Node} :
    isIdentifier name n = true ↔ n.kind = .identifier ∧ n.text = name := by
  rw [isIdentifier, Bool.and_eq_true, decide_eq_true_eq, decide_eq_true_eq]

theorem isModuleExports_iff {n : Node} :
    isModuleExports n = true ↔ n.kind = .member ∧ childIs n .object (isIdentifier "module") = true ∧
      childIs n .property (isProperty "exports") = true := by
  rw [isModuleExports, Bool.and_eq_true, Bool.and_eq_true, decide_eq_true_eq, and_assoc]

theorem isExports_iff {n : Node} :
    isExports n = true ↔
      (n.kind = .identifier ∧ n.text = "exports") ∨ isModuleExports n = true := by
  rw [isExports, Bool.or_eq_true, isIdentifier_iff]

theorem isObjectCall_iff {methods : List String} {n : Node} :
    isObjectCall methods n = true ↔ n.kind = .call ∧ ∃ f, n.child? .function = some f ∧
      f.kind = .member ∧ childIs f .object (isIdentifier "Object") = true ∧
        ∃ p, f.child? .property = some p ∧ p.text ∈ methods := by
  simp only [isObjectCall, Bool.and_eq_true, decide_eq_true_eq, childIs_iff, List.contains_iff_mem,
    and_assoc]

/-- A call of a method is no call of a name. -/
theorem not_isCallOf_of_isObjectCall {methods : List String} {n : Node}
    (h : isObjectCall methods n = true) (name : String) : isCallOf name n = false := by
  obtain ⟨_, f, hf, hmember, _⟩ := isObjectCall_iff.1 h
  rw [← Bool.not_eq_true, isCallOf, Bool.and_eq_true, childIs_iff, hf]
  intro hcall
  obtain ⟨_, f', hf', hname⟩ := hcall
  obtain rfl := Option.some.inj hf'
  rw [(isIdentifier_iff.1 hname).1] at hmember
  cases hmember

/-- What defines one property writes properties. -/
theorem isObjectCall_writingMethods {n : Node} (h : isObjectCall ["defineProperty"] n = true) :
    isObjectCall writingMethods n = true := by
  obtain ⟨hkind, f, hf, hmember, hobject, p, hp, htext⟩ := isObjectCall_iff.1 h
  rw [List.mem_singleton] at htext
  refine isObjectCall_iff.2 ⟨hkind, f, hf, hmember, hobject, p, hp, ?_⟩
  rw [htext]
  decide

/-- The arguments are what stands in the places, without the comments. -/
theorem argumentNodes_of_argumentPlaces {n a : Node} {rest : List Node}
    (h : argumentPlaces n = a :: rest) :
    argumentNodes n = (a :: rest).filter fun c => c.kind ≠ .comment := by
  rw [← h]
  unfold argumentPlaces at h ⊢
  unfold argumentNodes
  cases hlist : n.child? .arguments with
  | none =>
    rw [hlist] at h
    cases h
  | some list =>
    rw [hlist] at h
    by_cases hkind : list.kind = .arguments
    · simp only [if_pos hkind]
    · simp only [if_neg hkind] at h
      cases h

theorem mem_visit_of_mem_argumentPlaces {tree n a : Node} (hn : n ∈ tree.visit)
    (ha : a ∈ argumentPlaces n) : a ∈ tree.visit := by
  unfold argumentPlaces at ha
  split at ha
  · rename_i list hlist
    split at ha
    · exact Node.mem_visit_of_mem_children
        (Node.mem_visit_of_mem_children hn (Node.mem_children_of_child? hlist))
        (Node.mem_children_of_mem_namedChildren ha)
    · cases ha
  · cases ha

/-! ### How `module.exports` is written -/

/-- No member of `module` is written as `exports` alone. -/
theorem text_ne_exports {n : Node} (h : isModuleExports n = true) : n.text ≠ "exports" := by
  obtain ⟨_, hobject, _⟩ := isModuleExports_iff.1 h
  obtain ⟨o, ho, hmodule⟩ := childIs_iff.1 hobject
  have hm : 'm' ∈ n.text.toList := by
    apply Node.toList_text_subset (Node.mem_children_of_child? ho)
    rw [(isIdentifier_iff.1 hmodule).2]
    decide
  intro heq
  rw [heq] at hm
  revert hm
  decide

/-! ### Signs -/

/-- An assignment that exports something is a sign, however its left side is written. -/
theorem isSign_of_assignmentExports {n : Node} (hkind : n.kind = .assignment)
    (h : assignmentExports n ≠ .empty) : isSign n = true := by
  have hassigns : assignsExports n = true := by
    rw [assignsExports, Bool.and_eq_true]
    refine ⟨by rw [hkind]; rfl, ?_⟩
    unfold assignmentExports at h
    cases hleft : n.child? .left with
    | none =>
      rw [hleft] at h
      exact absurd rfl h
    | some left =>
      rw [hleft] at h
      refine childIs_iff.2 ⟨left, hleft, ?_⟩
      by_cases hmember : isExportsMember left = true
      · rw [hmember, Bool.or_true]
      · by_cases hmodule : isModuleExports left = true
        · rw [hmodule, Bool.true_or]
        · simp only [if_neg hmember, if_neg hmodule] at h
          exact absurd rfl h
  rw [isSign, hassigns, Bool.or_true, Bool.true_or]

/-- A call that defines a property is a sign by the text of what it is defined on. -/
theorem isSign_defineProperty_iff {n target : Node} {rest : List Node}
    (hcall : isObjectCall ["defineProperty"] n = true) (hplaces : argumentPlaces n = target :: rest)
    (hexports : isExports target = true) :
    isSign n = true ↔ target.text = "exports" ∨ target.text = "module.exports" := by
  -- the call is no other sign
  have hrequire : isCallOf "require" n = false := not_isCallOf_of_isObjectCall hcall "require"
  have hassigns : assignsExports n = false := by
    rw [assignsExports, (isObjectCall_iff.1 hcall).1]
    rfl
  -- and its first argument is no comment
  have hcomment : target.kind ≠ .comment := by
    intro h
    rcases isExports_iff.1 hexports with ⟨hkind', _⟩ | hmodule
    · rw [hkind'] at h
      cases h
    · rw [(isModuleExports_iff.1 hmodule).1] at h
      cases h
  have harguments : argumentNodes n = target :: rest.filter fun c => c.kind ≠ .comment := by
    rw [argumentNodes_of_argumentPlaces hplaces]
    exact List.filter_cons_of_pos (decide_eq_true hcomment)
  rw [isSign, hrequire, hassigns, Bool.false_or, Bool.false_or, writesExports,
    isObjectCall_writingMethods hcall, Bool.true_and, harguments]
  simp only [Bool.or_eq_true, decide_eq_true_eq]

theorem isSign_of_isCallOf_require {n : Node} (h : isCallOf "require" n = true) :
    isSign n = true := by
  rw [isSign, h, Bool.true_or, Bool.true_or]

/-! ### Definitions that go unseen -/

/-- The node defines the member `s` of `module.exports`, and these two words are not written in one
    piece. -/
def DefinesUnseen (n : Node) (s : String) : Prop :=
  isObjectCall ["defineProperty"] n = true ∧ ∃ target name rest,
    argumentPlaces n = target :: name :: rest ∧ isModuleExports target = true ∧
      target.text ≠ "module.exports" ∧ name.kind = .string ∧ stringValue name = s

/-- Such a call exports the name and is no sign. -/
theorem DefinesUnseen.spec {n : Node} {s : String} (h : DefinesUnseen n s) :
    nodeExports n = .name s ∧ isSign n = false := by
  obtain ⟨hcall, target, name, rest, hplaces, htarget, htext, hkind, rfl⟩ := h
  have hexports : isExports target = true := by
    rw [isExports, htarget, Bool.or_true]
  constructor
  · rw [nodeExports, (isObjectCall_iff.1 hcall).1]
    simp only [callExports, if_pos hcall, hplaces, hexports, hkind, decide_true, Bool.and_self,
      if_true]
  · rw [← Bool.not_eq_true, isSign_defineProperty_iff hcall hplaces hexports, not_or]
    exact ⟨text_ne_exports htarget, htext⟩

/-- A node that exports something is a sign, has one in its argument list, or defines a member of
    `module.exports` that goes unseen. -/
theorem nodeExports_cases (n : Node) :
    nodeExports n = .empty ∨ isSign n = true ∨ (∃ a ∈ argumentPlaces n, isSign a = true) ∨
      ∃ s, DefinesUnseen n s := by
  by_cases hempty : nodeExports n = .empty
  · exact Or.inl hempty
  · right
    unfold nodeExports at hempty
    split at hempty
    · -- an assignment is a sign itself
      exact Or.inl (isSign_of_assignmentExports ‹_› hempty)
    · unfold callExports at hempty
      split at hempty
      · -- a definition is one by the text of its target, and else it goes unseen
        rename_i hcall
        split at hempty
        · rename_i target name rest hplaces
          split at hempty
          · rename_i hdefines
            rw [Bool.and_eq_true, decide_eq_true_eq] at hdefines
            obtain ⟨hexports, hkind⟩ := hdefines
            by_cases hsign : isSign n = true
            · exact Or.inl hsign
            · rw [isSign_defineProperty_iff hcall hplaces hexports, not_or] at hsign
              have htarget : isModuleExports target = true := by
                rcases isExports_iff.1 hexports with ⟨_, htext⟩ | hmodule
                · exact absurd htext hsign.1
                · exact hmodule
              exact Or.inr (Or.inr ⟨stringValue name, hcall, target, name, rest, hplaces, htarget,
                hsign.2, hkind, rfl⟩)
          · exact absurd rfl hempty
        · exact absurd rfl hempty
      · split at hempty
        · -- a helper hands on what the call of `require` in its argument list asks for
          split at hempty
          · rename_i a rest hplaces
            split at hempty
            · refine Or.inr (Or.inl ⟨a, ?_, isSign_of_isCallOf_require ‹_›⟩)
              rw [hplaces]
              exact List.mem_cons_self
            · exact absurd rfl hempty
          · exact absurd rfl hempty
        · exact absurd rfl hempty
    · exact absurd rfl hempty

/-- So in a tree without a sign, only such definitions export something. -/
theorem nodeExports_of_no_sign {tree n : Node} (h : isCommonJs tree = false) (hn : n ∈ tree.visit) :
    nodeExports n = .empty ∨ ∃ s, DefinesUnseen n s := by
  have none : ∀ x ∈ tree.visit, ¬ isSign x = true := by
    intro x hx hsign
    rw [isCommonJs_iff.2 ⟨x, hx, hsign⟩] at h
    cases h
  rcases nodeExports_cases n with hempty | hsign | ⟨a, ha, hsign⟩ | hunseen
  · exact Or.inl hempty
  · exact absurd hsign (none n hn)
  · exact absurd hsign (none a (mem_visit_of_mem_argumentPlaces hn ha))
  · exact Or.inr hunseen

theorem exports_of_no_sign {tree : Node} (h : isCommonJs tree = false) (s : String) :
    s ∈ (collected tree).exports ↔ s ≠ "" ∧ ∃ n ∈ tree.visit, DefinesUnseen n s := by
  rw [mem_exports_collected]
  refine and_congr_right fun _ => exists_congr fun n => and_congr_right fun hn => ?_
  constructor
  · intro hs
    rcases nodeExports_of_no_sign h hn with hempty | ⟨s', hunseen⟩
    · rw [hempty] at hs
      cases hs
    · rw [hunseen.spec.1] at hs
      rw [List.mem_singleton.1 hs]
      exact hunseen
  · intro hunseen
    rw [hunseen.spec.1]
    exact List.mem_singleton_self s

theorem reexports_of_no_sign {tree : Node} (h : isCommonJs tree = false) :
    (collected tree).reexports = [] := by
  rw [List.eq_nil_iff_forall_not_mem]
  intro s hs
  obtain ⟨_, n, hn, hs⟩ := mem_reexports_collected.1 hs
  rcases nodeExports_of_no_sign h hn with hempty | ⟨s', hunseen⟩
  · rw [hempty] at hs
    cases hs
  · rw [hunseen.spec.1] at hs
    cases hs

/-! ### The two answers -/

/-- **Exports without a sign.** A tree is that of a CommonJS module, or it hands on nothing and its
    exports are the names that are defined on `module.exports` where these words are not written in
    one piece. So a tree that exports something has a sign of such a module exactly if it has a sign
    anyway or defines no name in this way. -/
theorem collected_without_sign (tree : Node) :
    (isCommonJs tree = true ∨ (collected tree).reexports = [] ∧
      ∀ s, s ∈ (collected tree).exports ↔ s ≠ "" ∧ ∃ n ∈ tree.visit, DefinesUnseen n s) ∧
    ((collected tree ≠ .empty → isCommonJs tree = true) ↔
      isCommonJs tree = true ∨ ∀ n ∈ tree.visit, ∀ s, DefinesUnseen n s → s = "") := by
  cases hsign : isCommonJs tree with
  | true => exact ⟨Or.inl rfl, iff_of_true (fun _ => rfl) (Or.inl rfl)⟩
  | false =>
    have hexports := exports_of_no_sign hsign
    have hreexports := reexports_of_no_sign hsign
    have hempty : collected tree = .empty ↔ ∀ n ∈ tree.visit, ∀ s, DefinesUnseen n s → s = "" := by
      rw [Collected.eq_empty_iff, hreexports]
      constructor
      · intro h n hn s hunseen
        by_contra hne
        exact h.1 s ((hexports s).2 ⟨hne, n, hn, hunseen⟩)
      · intro h
        refine ⟨fun s hs => ?_, fun s => List.not_mem_nil⟩
        obtain ⟨hne, n, hn, hunseen⟩ := (hexports s).1 hs
        exact hne (h n hn s hunseen)
    refine ⟨Or.inr ⟨hreexports, hexports⟩, ?_⟩
    rw [← hempty]
    simp only [Bool.false_eq_true, imp_false, not_not, false_or]

/-- A blank before the dot, and the name that is defined comes without a sign. -/
example :
    let tree := treeOf .javascript "Object.defineProperty(module .exports, 'x', getter)"
    (isCommonJs tree, (collected tree).exports) = (false, ["x"]) := by
  decide +kernel

end BundleGraph.Exports
