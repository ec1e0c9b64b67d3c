import BundleGraph.Proofs.Exports.Signs
import BundleGraph.Proofs.Exports.Uncommented

/-! # What comments do not change

    Most of what is asked of a tree is asked of the child in a part, of words, or
    of each child by itself. A comment plays no part, is no word and names
    nothing, so none of this depends on comments: the names of export statements
    (`moduleNames_uncommented`), the shapes of calls and assignments
    (`isObjectCall_uncommented`, `assignsExports_uncommented`), and the arguments
    of a call where comments are passed over (`argumentNodes_uncommented`).

    The places of an argument list are another matter. A comment takes a place
    like every other node (`argumentPlaces_uncommented`).
-/

namespace BundleGraph.Exports

open Syntax Syntax.Node

/-! ### Export statements -/

/-- A token is found whatever stands beside it. -/
theorem hasToken_uncommented (n : Node) (text : String) :
    hasToken n.uncommented text = hasToken n text := by
  have token : ∀ c : Node, (staysIn n.kind c &&
      (decide ((uncommentedIn n.kind c).kind = .token) &&
        decide ((uncommentedIn n.kind c).text = text))) =
      (decide (c.kind = .token) && decide (c.text = text)) := by
    intro c
    by_cases hc : c.kind = .token
    · have stays : staysIn n.kind c = true := staysIn_of_kind (by rw [hc]; decide) n.kind
      rw [stays, Bool.true_and, uncommentedIn_of_word (by rw [hc]; decide)]
    · simp [hc]
  rw [hasToken, children_uncommented, List.any_map, List.any_filter, hasToken]
  exact congrArg _ (funext token)

theorem declaratorName_uncommented (n : Node) :
    declaratorName n.uncommented = declaratorName n := by
  rw [declaratorName, kind_uncommented, child?_uncommented, declaratorName]
  cases n.child? .name with
  | none => rfl
  | some name =>
    simp only [Option.map_some,
      ite_kind_uncommentedIn (p := (· = .identifier)) (by rintro _ rfl; decide) fun c => [c.text]]

/-- Nothing is declared by a node of another kind than a declarator. -/
theorem declaratorName_of_comment {c : Node} (h : c.isComment = true) : declaratorName c = [] := by
  rw [declaratorName, (isComment_spec h).1]
  rfl

theorem plainNames_uncommented (n : Node) : plainNames n.uncommented = plainNames n := by
  rw [plainNames, plainNames, kind_uncommented]
  by_cases hnamed : n.kind ∈ namedDeclarations
  · have hname : n.uncommented.child? .name = n.child? .name := by
      apply child?_uncommented_of_name
      intro c hc
      simp [isNameIn, hc, hnamed]
    rw [if_pos hnamed, if_pos hnamed, hname]
  · rw [if_neg hnamed, if_neg hnamed]
    have hnames : n.uncommented.namedChildren.flatMap declaratorName =
        n.namedChildren.flatMap declaratorName :=
      n.namedChildren_thins.flatMap_eq (fun c => declaratorName_of_comment)
        fun x _ => declaratorName_uncommented x
    rw [hnames]

theorem namesOfAll_eq (ns : List Node) :
    namesOfAll ns = (ns.filter isNamed).flatMap declaredNames := by
  induction ns with
  | nil => rw [namesOfAll, List.filter_nil, List.flatMap_nil]
  | cons n ns ih =>
    rw [namesOfAll, ih]
    by_cases hn : n.isNamed = true
    · rw [if_pos hn, List.filter_cons_of_pos hn, List.flatMap_cons]
    · rw [if_neg hn, List.filter_cons_of_neg hn, List.nil_append]

theorem declaredNames_eq (n : Node) :
    declaredNames n =
      if n.kind = .ambientDeclaration then n.namedChildren.flatMap declaredNames
      else plainNames n := by
  cases n with
  | leaf r k g t =>
    rw [declaredNames]
    split
    · rename_i hk
      rw [plainNames, hk]
      rfl
    · rfl
  | branch r k cs =>
    rw [declaredNames, namesOfAll_eq]
    rfl

theorem declaredNames_of_comment {c : Node} (h : c.isComment = true) : declaredNames c = [] := by
  have hkind := (isComment_spec h).1
  rw [declaredNames_eq, plainNames, hkind]
  rfl

theorem declaredNames_uncommented (n : Node) : declaredNames n.uncommented = declaredNames n := by
  induction n using Node.induction with
  | leaf => rw [uncommented]
  | branch r k cs ih =>
    have hinside : (branch r k cs).uncommented.namedChildren.flatMap declaredNames =
        (branch r k cs).namedChildren.flatMap declaredNames :=
      (branch r k cs).namedChildren_thins.flatMap_eq (fun c => declaredNames_of_comment)
        fun x hx => ih x (mem_children_of_mem_namedChildren hx)
    rw [declaredNames_eq, declaredNames_eq (branch r k cs), kind_uncommented, hinside,
      plainNames_uncommented]

theorem specifierName_uncommented (n : Node) : specifierName n.uncommented = specifierName n := by
  rw [specifierName, specifierName, kind_uncommented]
  by_cases hkind : n.kind = .exportSpecifier
  · have hnew : n.uncommented.child? .newName = n.child? .newName := by
      apply child?_uncommented_of_name
      intro c hc
      simp [isNameIn, hc]
    have hname : n.uncommented.child? .name = n.child? .name := by
      apply child?_uncommented_of_name
      intro c hc
      simp [isNameIn, hc, hkind]
    rw [hnew, hname]
  · rw [if_neg hkind, if_neg hkind]

theorem clauseNames_uncommented (n : Node) : clauseNames n.uncommented = clauseNames n := by
  have hnone : ∀ c : Node, c.isComment = true → specifierName c = [] := by
    intro c hc
    rw [specifierName, (isComment_spec hc).1]
    rfl
  have hnames : n.uncommented.namedChildren.flatMap specifierName =
      n.namedChildren.flatMap specifierName :=
    n.namedChildren_thins.flatMap_eq hnone fun x _ => specifierName_uncommented x
  rw [clauseNames, clauseNames, kind_uncommented, hnames]

theorem statementNames_uncommented (n : Node) :
    statementNames n.uncommented = statementNames n := by
  have hnone : ∀ c : Node, c.isComment = true → clauseNames c = [] := by
    intro c hc
    rw [clauseNames, (isComment_spec hc).1]
    rfl
  have hnames : n.uncommented.namedChildren.flatMap clauseNames =
      n.namedChildren.flatMap clauseNames :=
    n.namedChildren_thins.flatMap_eq hnone fun x _ => clauseNames_uncommented x
  rw [statementNames, statementNames, child?_uncommented, hnames]
  simp only [hasToken_uncommented]
  cases n.child? .declaration with
  | none => rfl
  | some d =>
    simp only [Option.map_some, kind_uncommentedIn,
      apply_uncommentedIn (declaredNames_uncommented d)]

/-- The names of export statements do not depend on comments. -/
theorem moduleNames_uncommented (tree : Node) :
    moduleNames tree.uncommented = moduleNames tree := by
  rw [moduleNames, moduleNames]
  refine tree.visit_thins.flatMap_eq ?_ ?_
  · intro c hc
    rw [(isComment_spec hc).1]
    rfl
  · intro x _
    rw [kind_uncommented, statementNames_uncommented]

/-! ### Shapes -/

theorem childIs_uncommented {p : Node → Bool} (hp : ∀ c : Node, p c.uncommented = p c) (n : Node)
    (r : Role) : childIs n.uncommented r p = childIs n r p := by
  rw [childIs, child?_uncommented, Option.any_map, childIs]
  exact congrArg (fun q => (n.child? r).any q)
    (funext fun c => apply_uncommentedIn (hp c) n.kind)

theorem isIdentifier_uncommented (name : String) (n : Node) :
    isIdentifier name n.uncommented = isIdentifier name n := by
  by_cases hkind : n.kind = .identifier
  · rw [uncommented_of_word (by rw [hkind]; decide)]
  · simp [isIdentifier, hkind]

theorem isProperty_uncommented (name : String) (n : Node) :
    isProperty name n.uncommented = isProperty name n := by
  by_cases hkind : n.kind = .propertyName
  · rw [uncommented_of_word (by rw [hkind]; decide)]
  · simp [isProperty, hkind]

theorem isModuleExports_uncommented (n : Node) :
    isModuleExports n.uncommented = isModuleExports n := by
  rw [isModuleExports, kind_uncommented, childIs_uncommented (isIdentifier_uncommented "module"),
    childIs_uncommented (isProperty_uncommented "exports"), isModuleExports]

theorem isExports_uncommented (n : Node) : isExports n.uncommented = isExports n := by
  rw [isExports, isIdentifier_uncommented, isModuleExports_uncommented, isExports]

theorem isExportsMember_uncommented (n : Node) :
    isExportsMember n.uncommented = isExportsMember n := by
  rw [isExportsMember, kind_uncommented, childIs_uncommented isExports_uncommented,
    isExportsMember]

theorem isCallOf_uncommented (name : String) (n : Node) :
    isCallOf name n.uncommented = isCallOf name n := by
  rw [isCallOf, kind_uncommented, childIs_uncommented (isIdentifier_uncommented name), isCallOf]

theorem child?_property_uncommented (n : Node) :
    n.uncommented.child? .property = n.child? .property := by
  apply child?_uncommented_of_name
  intro c hc
  simp [isNameIn, hc]

theorem isObjectCall_uncommented (methods : List String) (n : Node) :
    isObjectCall methods n.uncommented = isObjectCall methods n := by
  rw [isObjectCall, kind_uncommented, childIs_uncommented _ n .function, isObjectCall]
  intro f
  have hproperty : childIs f.uncommented .property (fun p => methods.contains p.text) =
      childIs f .property fun p => methods.contains p.text := by
    rw [childIs, child?_property_uncommented, childIs]
  rw [kind_uncommented, childIs_uncommented (isIdentifier_uncommented "Object"), hproperty]

theorem assignsExports_uncommented (n : Node) :
    assignsExports n.uncommented = assignsExports n := by
  rw [assignsExports, kind_uncommented, childIs_uncommented _ n .left, assignsExports]
  intro left
  rw [isModuleExports_uncommented, isExportsMember_uncommented]

/-! ### Arguments -/

/-- The arguments that are no comments are the same, each without its own comments. -/
theorem argumentNodes_uncommented (n : Node) :
    ∃ parent, argumentNodes n.uncommented = (argumentNodes n).map (uncommentedIn parent) := by
  unfold argumentNodes
  rw [child?_uncommented]
  cases n.child? .arguments with
  | none => exact ⟨.token, rfl⟩
  | some list =>
    simp only [Option.map_some]
    rcases uncommentedIn_cases n.kind list with hsame | hbare
    · refine ⟨.token, ?_⟩
      have same : ∀ c ∈ list.namedChildren.filter fun c => c.kind ≠ .comment,
          uncommentedIn .token c = c := fun c _ => if_pos (Or.inl (by decide))
      rw [hsame, List.map_congr_left same, List.map_id']
    · refine ⟨list.kind, ?_⟩
      have kept : ∀ c : Node, (decide ((uncommentedIn list.kind c).kind ≠ .comment) &&
          staysIn list.kind c) = decide (c.kind ≠ .comment) := by
        intro c
        rw [kind_uncommentedIn]
        by_cases hc : c.kind = .comment
        · simp [hc]
        · rw [staysIn_of_kind hc, Bool.and_true]
      rw [hbare, namedChildren_uncommented, List.filter_map, List.filter_filter]
      exact congrArg (List.map _) (List.filter_congr fun c _ => kept c)

/-- In the places of an argument list, the nodes behind a comment move up. -/
theorem argumentPlaces_uncommented (n : Node) :
    ∃ parent, argumentPlaces n.uncommented =
      ((argumentPlaces n).filter (staysIn parent)).map (uncommentedIn parent) := by
  unfold argumentPlaces
  rw [child?_uncommented]
  cases n.child? .arguments with
  | none => exact ⟨.token, rfl⟩
  | some list =>
    simp only [Option.map_some, kind_uncommentedIn]
    by_cases hkind : list.kind = .arguments
    · simp only [if_pos hkind]
      rcases uncommentedIn_cases n.kind list with hsame | hbare
      · refine ⟨.token, ?_⟩
        rw [hsame, filter_map_of_word (by decide)]
      · exact ⟨list.kind, by rw [hbare, namedChildren_uncommented]⟩
    · simp only [if_neg hkind]
      exact ⟨.token, rfl⟩

/-- The module that `require` asks for is read from the arguments that are no comments. -/
theorem requiredSource_uncommented (call : Node) :
    requiredSource call.uncommented = requiredSource call := by
  obtain ⟨parent, hnodes⟩ := argumentNodes_uncommented call
  rw [requiredSource, hnodes, requiredSource]
  cases argumentNodes call with
  | nil => rfl
  | cons a rest =>
    exact ite_kind_uncommentedIn (p := (· = .string)) (by rintro _ rfl; decide)
      (fun c => Collected.source (stringValue c)) Collected.empty parent a

/-- The name of a member is a word. -/
theorem memberName_uncommented (left : Node) :
    memberName left.uncommented = memberName left := by
  rw [memberName, kind_uncommented, child?_property_uncommented, child?_uncommented, memberName]
  cases left.child? .index with
  | none => rfl
  | some i =>
    simp only [Option.map_some, ite_kind_uncommentedIn (p := (· = .string))
      (by rintro _ rfl; decide) fun c => Collected.name (stringValue c)]

/-- The name of a key is a word. -/
theorem keyName_uncommented (n : Node) (r : Role) :
    keyName (n.uncommented.child? r) = keyName (n.child? r) := by
  rw [child?_uncommented]
  cases n.child? r with
  | none => rfl
  | some key =>
    exact ite_kind_uncommentedIn (p := (· ∈ staticKeys)) (by decide)
      (fun c => Collected.name (stringValue c)) Collected.empty n.kind key

end BundleGraph.Exports
