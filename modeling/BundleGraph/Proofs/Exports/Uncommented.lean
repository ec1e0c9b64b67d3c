import BundleGraph.Exports.Names
import BundleGraph.Proofs.Syntax.Tree

/-! # Trees without their comments

    Comments are nodes like others. `Node.uncommented` takes them out of a tree,
    at every depth, and leaves all other nodes in their order. Two trees that are
    the same without their comments differ by comments that were put in at any
    places (`uncommented_insert`).

    Words and names are read as they are written, and are left as they are: they
    are leaves, so nothing can be put into them.

    What is asked of a tree is answered from the children of a node, from the
    child in a part and from the nodes that a visit passes. The lemmas of this
    module say what becomes of these (`children_uncommented`,
    `child?_uncommented`, `visit_thins`).
-/

namespace BundleGraph.Syntax.Node

/-! ### Taking comments out -/

/-- Whether a node is a comment: a leaf that plays no part and whose text begins like one. -/
def isComment : Node → Bool
  | leaf none .comment _ text => text.toList.head? = some '/' || text.toList.head? = some '#'
  | _ => false

/-- Kinds of nodes that are read as they are written. -/
def wordKinds : List Kind :=
  [.token, .identifier, .propertyName, .shorthandName, .string, .number]

/-- Whether a child is read as it is written because of the part that it plays. -/
def isNameIn (parent : Kind) (c : Node) : Bool :=
  c.role = some .property || c.role = some .newName ||
    (c.role = some .name && parent ∈ Kind.exportSpecifier :: Exports.namedDeclarations)

mutual

/-- The node without the comments in it. -/
def uncommented : Node → Node
  | leaf r k g t => leaf r k g t
  | branch r k cs => branch r k (if k ∈ wordKinds then cs else uncommentedAll k cs)

/-- The children of a node without comments. -/
def uncommentedAll (parent : Kind) : List Node → List Node
  | [] => []
  | c :: cs =>
    if c.isComment then uncommentedAll parent cs
    else (if isNameIn parent c then c else c.uncommented) :: uncommentedAll parent cs

end

/-- Whether a child is left in a node of the kind. -/
def staysIn (parent : Kind) (c : Node) : Bool := parent ∈ wordKinds || !c.isComment

/-- What becomes of a child that is left in a node of the kind. -/
def uncommentedIn (parent : Kind) (c : Node) : Node :=
  if parent ∈ wordKinds ∨ isNameIn parent c = true then c else c.uncommented

@[simp] theorem kind_uncommented (n : Node) : n.uncommented.kind = n.kind := by
  cases n with
  | leaf => rw [uncommented]
  | branch =>
    rw [uncommented]
    rfl

@[simp] theorem role_uncommented (n : Node) : n.uncommented.role = n.role := by
  cases n with
  | leaf => rw [uncommented]
  | branch =>
    rw [uncommented]
    rfl

theorem uncommentedIn_cases (parent : Kind) (c : Node) :
    uncommentedIn parent c = c ∨ uncommentedIn parent c = c.uncommented := by
  rw [uncommentedIn]
  split
  · exact Or.inl rfl
  · exact Or.inr rfl

/-- What does not change when comments are taken out of a node does not change for a child. -/
theorem apply_uncommentedIn {β : Type} {f : Node → β} {c : Node} (h : f c.uncommented = f c)
    (parent : Kind) : f (uncommentedIn parent c) = f c := by
  rcases uncommentedIn_cases parent c with hc | hc
  · rw [hc]
  · rw [hc, h]

@[simp] theorem kind_uncommentedIn (parent : Kind) (c : Node) :
    (uncommentedIn parent c).kind = c.kind :=
  apply_uncommentedIn c.kind_uncommented parent

@[simp] theorem role_uncommentedIn (parent : Kind) (c : Node) :
    (uncommentedIn parent c).role = c.role :=
  apply_uncommentedIn c.role_uncommented parent

theorem uncommented_of_word {n : Node} (h : n.kind ∈ wordKinds) : n.uncommented = n := by
  cases n with
  | leaf => rw [uncommented]
  | branch r k cs =>
    rw [uncommented, if_pos]
    exact h

theorem uncommentedIn_of_word {c : Node} (h : c.kind ∈ wordKinds) (parent : Kind) :
    uncommentedIn parent c = c :=
  apply_uncommentedIn (f := id) (uncommented_of_word h) parent

/-- What is read of words only does not depend on comments. -/
theorem ite_kind_uncommentedIn {β : Type} {p : Kind → Prop} [DecidablePred p]
    (words : ∀ k, p k → k ∈ wordKinds) (read : Node → β) (other : β) (parent : Kind) (c : Node) :
    (if p (uncommentedIn parent c).kind then read (uncommentedIn parent c) else other) =
      if p c.kind then read c else other := by
  rw [kind_uncommentedIn]
  by_cases hc : p c.kind
  · rw [uncommentedIn_of_word (words c.kind hc)]
  · rw [if_neg hc, if_neg hc]

theorem uncommentedIn_of_isNameIn {parent : Kind} {c : Node} (h : isNameIn parent c = true) :
    uncommentedIn parent c = c :=
  if_pos (Or.inr h)

/-! ### Comments -/

/-- A comment is a leaf without a part, and its text has a slash or a hash sign. -/
theorem isComment_spec {c : Node} (h : c.isComment = true) :
    c.kind = .comment ∧ c.role = none ∧ c.children = [] ∧
      ('/' ∈ c.text.toList ∨ '#' ∈ c.text.toList) := by
  unfold isComment at h
  split at h
  · rename_i gap text
    refine ⟨rfl, rfl, rfl, ?_⟩
    rw [Bool.or_eq_true, decide_eq_true_eq, decide_eq_true_eq] at h
    rcases h with h | h
    · exact Or.inl (List.mem_of_head? h)
    · exact Or.inr (List.mem_of_head? h)
  · cases h

theorem isComment_eq_false_of_kind {c : Node} (h : c.kind ≠ .comment) : c.isComment = false := by
  rw [← Bool.not_eq_true]
  exact fun hc => h (isComment_spec hc).1

/-- What is taken out is a comment. -/
theorem isComment_of_not_staysIn {parent : Kind} {c : Node} (h : ¬ staysIn parent c = true) :
    c.isComment = true ∧ parent ∉ wordKinds := by
  rw [staysIn, Bool.or_eq_true, not_or, decide_eq_true_eq, Bool.not_eq_true',
    Bool.not_eq_false] at h
  exact h.symm

theorem staysIn_of_kind {c : Node} (h : c.kind ≠ .comment) (parent : Kind) :
    staysIn parent c = true := by
  rw [staysIn, isComment_eq_false_of_kind h, Bool.not_false, Bool.or_true]

/-! ### Children -/

theorem uncommentedAll_eq {parent : Kind} (h : parent ∉ wordKinds) (cs : List Node) :
    uncommentedAll parent cs = (cs.filter (staysIn parent)).map (uncommentedIn parent) := by
  induction cs with
  | nil => rw [uncommentedAll, List.filter_nil, List.map_nil]
  | cons c cs ih =>
    rw [uncommentedAll]
    by_cases hc : c.isComment = true
    · have gone : ¬ staysIn parent c = true := by simp [staysIn, h, hc]
      rw [if_pos hc, List.filter_cons_of_neg gone, ih]
    · have stays : staysIn parent c = true := by simp [staysIn, hc]
      rw [if_neg hc, List.filter_cons_of_pos stays, List.map_cons, ih]
      simp [uncommentedIn, h]

/-- What stands in a word is left as it is. -/
theorem filter_map_of_word {parent : Kind} (h : parent ∈ wordKinds) (cs : List Node) :
    (cs.filter (staysIn parent)).map (uncommentedIn parent) = cs := by
  have stays : ∀ c ∈ cs, staysIn parent c = true := fun c _ => by simp [staysIn, h]
  have same : ∀ c ∈ cs, uncommentedIn parent c = c := fun c _ => if_pos (Or.inl h)
  rw [List.filter_eq_self.2 stays, List.map_congr_left same, List.map_id']

/-- The children are those that are no comments, each without its own comments. -/
theorem children_uncommented (n : Node) :
    n.uncommented.children =
      (n.children.filter (staysIn n.kind)).map (uncommentedIn n.kind) := by
  cases n with
  | leaf => rw [uncommented, children, List.filter_nil, List.map_nil]
  | branch r k cs =>
    rw [uncommented]
    by_cases hk : k ∈ wordKinds
    · rw [if_pos hk]
      exact (filter_map_of_word hk cs).symm
    · rw [if_neg hk]
      exact uncommentedAll_eq hk cs

/-- A comment that is put between the children of a node is taken out again. -/
theorem uncommented_insert {role : Option Role} {kind : Kind} {before after : List Node} {c : Node}
    (hkind : kind ∉ wordKinds) (hc : c.isComment = true) :
    (branch role kind (before ++ c :: after)).uncommented =
      (branch role kind (before ++ after)).uncommented := by
  have gone : ¬ staysIn kind c = true := by simp [staysIn, hkind, hc]
  rw [uncommented, uncommented, if_neg hkind, if_neg hkind, uncommentedAll_eq hkind,
    uncommentedAll_eq hkind, List.filter_append, List.filter_cons_of_neg gone, List.filter_append]

theorem namedChildren_uncommented (n : Node) :
    n.uncommented.namedChildren =
      (n.namedChildren.filter (staysIn n.kind)).map (uncommentedIn n.kind) := by
  have named : isNamed ∘ uncommentedIn n.kind = isNamed := by
    funext c
    rw [Function.comp_apply, isNamed, kind_uncommentedIn, isNamed]
  rw [namedChildren, children_uncommented, List.filter_map, named, namedChildren,
    List.filter_filter, List.filter_filter]
  simp only [Bool.and_comm]

/-- A comment plays no part, so the child in a part is the same. -/
theorem child?_uncommented (n : Node) (r : Role) :
    n.uncommented.child? r = (n.child? r).map (uncommentedIn n.kind) := by
  have part : ∀ c : Node, (staysIn n.kind c = true ∧ c.role = some r) ↔ c.role = some r := by
    intro c
    refine and_iff_right_of_imp fun hr => ?_
    by_contra hgone
    rw [(isComment_spec (isComment_of_not_staysIn hgone).1).2.1] at hr
    cases hr
  rw [child?, children_uncommented, List.find?_map, List.find?_filter, child?]
  simp only [Function.comp_apply, role_uncommentedIn, decide_eq_true_eq, part]

/-- A child that is read as it is written stays so. -/
theorem child?_uncommented_of_name {n : Node} {r : Role}
    (h : ∀ c : Node, c.role = some r → isNameIn n.kind c = true) :
    n.uncommented.child? r = n.child? r := by
  rw [child?_uncommented]
  cases hc : n.child? r with
  | none => rfl
  | some c => rw [Option.map_some, uncommentedIn_of_isNameIn (h c (role_of_child? hc))]

/-! ### Visits -/

/-- `Thins xs ys`: the second list has the nodes of the first one in their order, each as it is or
    without the comments in it. Only comments may be left out. -/
inductive Thins : List Node → List Node → Prop where
  | nil : Thins [] []
  | gone {c : Node} {xs ys : List Node} (comment : c.isComment = true) (h : Thins xs ys) :
      Thins (c :: xs) ys
  | same {x : Node} {xs ys : List Node} (h : Thins xs ys) : Thins (x :: xs) (x :: ys)
  | bare {x : Node} {xs ys : List Node} (h : Thins xs ys) : Thins (x :: xs) (x.uncommented :: ys)

namespace Thins

theorem refl (xs : List Node) : Thins xs xs := by
  induction xs with
  | nil => exact .nil
  | cons x xs ih => exact .same ih

theorem append {xs ys xs' ys' : List Node} (h : Thins xs ys) (h' : Thins xs' ys') :
    Thins (xs ++ xs') (ys ++ ys') := by
  induction h with
  | nil => exact h'
  | gone comment _ ih => exact .gone comment ih
  | same _ ih => exact .same ih
  | bare _ ih => exact .bare ih

/-- What is left of the nodes in a list. -/
theorem filter_map (parent : Kind) (xs : List Node) :
    Thins xs ((xs.filter (staysIn parent)).map (uncommentedIn parent)) := by
  induction xs with
  | nil => exact .nil
  | cons x xs ih =>
    by_cases hx : staysIn parent x = true
    · rw [List.filter_cons_of_pos hx, List.map_cons]
      rcases uncommentedIn_cases parent x with hsame | hbare
      · rw [hsame]
        exact .same ih
      · rw [hbare]
        exact .bare ih
    · rw [List.filter_cons_of_neg hx]
      exact .gone (isComment_of_not_staysIn hx).1 ih

/-- A node is left out if it is a comment, and else it stays or loses its comments. -/
theorem mem_left {x : Node} {xs ys : List Node} (h : Thins xs ys) (hx : x ∈ xs) :
    x.isComment = true ∨ x ∈ ys ∨ x.uncommented ∈ ys := by
  induction h with
  | nil => cases hx
  | gone comment _ ih =>
    rcases List.mem_cons.1 hx with rfl | hx
    · exact Or.inl comment
    · exact ih hx
  | same _ ih =>
    rcases List.mem_cons.1 hx with rfl | hx
    · exact Or.inr (Or.inl List.mem_cons_self)
    · exact (ih hx).imp_right
        (Or.imp (List.mem_cons_of_mem _) (List.mem_cons_of_mem _))
  | bare _ ih =>
    rcases List.mem_cons.1 hx with rfl | hx
    · exact Or.inr (Or.inr List.mem_cons_self)
    · exact (ih hx).imp_right
        (Or.imp (List.mem_cons_of_mem _) (List.mem_cons_of_mem _))

theorem mem_right {y : Node} {xs ys : List Node} (h : Thins xs ys) (hy : y ∈ ys) :
    y ∈ xs ∨ ∃ x ∈ xs, y = x.uncommented := by
  have later : ∀ {z : Node} {zs : List Node}, (y ∈ zs ∨ ∃ x ∈ zs, y = x.uncommented) →
      y ∈ z :: zs ∨ ∃ x ∈ z :: zs, y = x.uncommented := by
    intro z zs hz
    exact hz.imp (List.mem_cons_of_mem z)
      fun ⟨x, hx, hyx⟩ => ⟨x, List.mem_cons_of_mem z hx, hyx⟩
  induction h with
  | nil => cases hy
  | gone _ _ ih => exact later (ih hy)
  | same _ ih =>
    rcases List.mem_cons.1 hy with rfl | hy
    · exact Or.inl List.mem_cons_self
    · exact later (ih hy)
  | @bare x xs _ _ ih =>
    rcases List.mem_cons.1 hy with rfl | hy
    · exact Or.inr ⟨x, List.mem_cons_self, rfl⟩
    · exact later (ih hy)

/-- What is listed of each node is the same if it does not depend on comments. -/
theorem flatMap_eq {β : Type} {f : Node → List β} {xs ys : List Node} (h : Thins xs ys)
    (hcomment : ∀ c : Node, c.isComment = true → f c = [])
    (hf : ∀ x ∈ xs, f x.uncommented = f x) : ys.flatMap f = xs.flatMap f := by
  induction h with
  | nil => rfl
  | gone comment _ ih =>
    rw [List.flatMap_cons, hcomment _ comment, List.nil_append]
    exact ih fun x hx => hf x (List.mem_cons_of_mem _ hx)
  | same _ ih =>
    rw [List.flatMap_cons, List.flatMap_cons, ih fun x hx => hf x (List.mem_cons_of_mem _ hx)]
  | bare _ ih =>
    rw [List.flatMap_cons, List.flatMap_cons, ih fun x hx => hf x (List.mem_cons_of_mem _ hx),
      hf _ List.mem_cons_self]

end Thins

theorem namedChildren_thins (n : Node) : Thins n.namedChildren n.uncommented.namedChildren := by
  rw [namedChildren_uncommented]
  exact .filter_map n.kind n.namedChildren

/-- A visit passes the nodes of the tree in their order. -/
theorem visit_thins (n : Node) : Thins n.visit n.uncommented.visit := by
  induction n using Node.induction with
  | leaf r k g t =>
    rw [uncommented]
    exact .refl _
  | branch r k cs ih =>
    rw [visit_eq, visit_eq (uncommented _), children_uncommented]
    refine .bare ?_
    show Thins (cs.flatMap visit) (((cs.filter (staysIn k)).map (uncommentedIn k)).flatMap visit)
    -- one child after the other; what is taken out is visited alone
    induction cs with
    | nil => exact .nil
    | cons c cs ihcs =>
      have rest := ihcs fun x hx => ih x (List.mem_cons_of_mem c hx)
      rw [List.flatMap_cons]
      by_cases hc : staysIn k c = true
      · rw [List.filter_cons_of_pos hc, List.map_cons, List.flatMap_cons]
        refine .append ?_ rest
        rcases uncommentedIn_cases k c with hsame | hbare
        · rw [hsame]
          exact .refl _
        · rw [hbare]
          exact ih c List.mem_cons_self
      · have comment := (isComment_of_not_staysIn hc).1
        rw [List.filter_cons_of_neg hc, visit_eq, (isComment_spec comment).2.2.1]
        exact .gone comment rest

/-! ### Texts -/

/-- A node in whose text there is neither a slash nor a hash sign has no comments. -/
theorem uncommented_eq_self {n : Node} (slash : '/' ∉ n.text.toList) (hash : '#' ∉ n.text.toList) :
    n.uncommented = n := by
  induction n using Node.induction with
  | leaf => rw [uncommented]
  | branch r k cs ih =>
    rw [uncommented]
    by_cases hk : k ∈ wordKinds
    · rw [if_pos hk]
    · -- a comment among the children would show in the text, and so would one inside of a child
      have within : ∀ c ∈ cs, c.text.toList ⊆ (branch r k cs).text.toList :=
        fun c hc => toList_text_subset (n := branch r k cs) hc
      have stays : ∀ c ∈ cs, staysIn k c = true := by
        intro c hc
        by_contra hgone
        rcases (isComment_spec (isComment_of_not_staysIn hgone).1).2.2.2 with hs | hh
        · exact slash (within c hc hs)
        · exact hash (within c hc hh)
      have same : ∀ c ∈ cs, uncommentedIn k c = c := by
        intro c hc
        refine apply_uncommentedIn (f := id) (ih c hc ?_ ?_) k
        · exact fun hs => slash (within c hc hs)
        · exact fun hh => hash (within c hc hh)
      rw [if_neg hk, uncommentedAll_eq hk, List.filter_eq_self.2 stays, List.map_congr_left same,
        List.map_id']

end BundleGraph.Syntax.Node
