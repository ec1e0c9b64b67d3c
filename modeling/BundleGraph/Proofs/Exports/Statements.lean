import BundleGraph.Proofs.Exports.Unaffected
import BundleGraph.Proofs.Syntax.Parse

/-! # The names of each export statement

    `Export.names` says which names a module exports by a statement, `Export.read`
    which of them are read off its tree. The two differ in two forms. All names of
    another module under one name are read as none, because this name stands in a
    node that is passed over. And a function without a body that is exported by
    default is read by its own name, because functions of this kind are missing
    among the declarations that bind a value.

    What is read depends on the nodes behind the word `export` only
    (`statementNames_eq`), so there is one case for each form that may stand there
    (`restNames_of_means`).
-/

namespace BundleGraph.Exports

open Syntax Syntax.Node

/-- The names that are read off the tree of an export statement. -/
def Export.read : Export → List String
  | allAs _ => []
  | defaultDeclaration (.named .functionSignature name) => [name]
  | e => e.names

/-- Outside of two forms these are the names that the module exports. -/
theorem Export.read_eq_names_iff (e : Export) :
    e.read = e.names ↔ (∀ s, e ≠ .allAs s) ∧
      ∀ s, e = .defaultDeclaration (.named .functionSignature s) → s = "default" := by
  constructor
  · intro h
    refine ⟨?_, ?_⟩
    · rintro s rfl
      cases h
    · rintro s rfl
      exact (List.cons.inj h).1
  · rintro ⟨hall, hsignature⟩
    unfold read
    split
    · exact absurd rfl (hall _)
    · rw [hsignature _ rfl]
      rfl
    · rfl

/-! ### Words -/

/-- A name stands without the quotation marks of a string. -/
theorem unquoted_of_spells {n : Node} {s : String} (h : n.Spells s) : unquoted n.text = s := by
  cases h with
  | word kind hquote =>
    unfold unquoted
    simp only
    split
    · rename_i a b ha hb
      rw [if_neg]
      rintro ⟨-, -, ha'⟩
      exact hquote a ha (by simpa [Source.quotes] using ha')
    · rfl
  | literal h =>
    rename_i q content
    have hquote : q = '\'' ∨ q = '"' := by simpa [Source.quotes] using h.quote
    have hlast : (q :: content ++ [q]).getLast? = some q := List.getLast?_concat
    have hinside : ((q :: content ++ [q]).drop 1).dropLast = content := List.dropLast_concat
    unfold unquoted
    simp only [h.text, String.toList_ofList, hlast, hinside]
    simp [hquote]

/-! ### Declarations -/

/-- Members of a list of which nothing is read may be left out. -/
theorem flatMap_filter {f : Node → List String} {p : Node → Bool}
    (h : ∀ c, p c = false → f c = []) (cs : List Node) :
    (cs.filter p).flatMap f = cs.flatMap f := by
  induction cs with
  | nil => rfl
  | cons c cs ih =>
    rw [List.flatMap_cons, ← ih]
    cases hc : p c with
    | true => rw [List.filter_cons_of_pos hc, List.flatMap_cons]
    | false => rw [List.filter_cons_of_neg (by rw [hc]; nofun), h c hc, List.nil_append]

/-- What is read of children that are neither tokens nor comments. -/
theorem flatMap_namedChildren {f : Node → List String}
    (h : ∀ c : Node, c.kind ∈ [.token, .comment] → f c = []) (n : Node) :
    n.namedChildren.flatMap f = n.constituents.flatMap f := by
  rw [namedChildren, constituents, flatMap_filter, flatMap_filter]
  · exact fun c hc => h c (by simp at hc; simp [hc])
  · exact fun c hc => h c (by simp [isNamed] at hc; simp [hc])

theorem declaratorName_eq (n : Node) :
    declaratorName n = if n.kind = .variableDeclarator then (target? n).toList else [] := by
  unfold declaratorName target?
  cases n.child? .name with
  | none => rfl
  | some name =>
    by_cases h : name.kind = .identifier
    · simp [h]
    · simp [h]

/-- What is declared is what is read of the declaration. -/
theorem declaredNames_of_declares {n : Node} {d : Declared} (h : Declares n d) :
    declaredNames n = d.names := by
  -- nothing is read of nodes that are no declarations
  have hnone : ∀ c : Node,
      c.kind ∉ .ambientDeclaration :: namedDeclarations ++ variableDeclarations →
        declaredNames c = [] := by
    intro c hc
    simp only [List.cons_append, List.mem_cons, List.mem_append, not_or] at hc
    rw [declaredNames_eq, if_neg hc.1, plainNames, if_neg hc.2.1, if_neg hc.2.2]
  have hsmall : ∀ k ∈ [Kind.token, .comment], k ∉
      Kind.ambientDeclaration :: namedDeclarations ++ variableDeclarations := by decide
  induction h with
  | @named n name kind name_eq =>
    have hplain : ∀ k ∈ namedDeclarations, k ≠ .ambientDeclaration := by decide
    rw [declaredNames_eq, if_neg (hplain _ kind), plainNames, if_pos kind, name_eq]
    rfl
  | @bindings n kind targets =>
    have hplain : ∀ k ∈ variableDeclarations, k ≠ .ambientDeclaration ∧ k ∉ namedDeclarations := by
      decide
    rw [declaredNames_eq, if_neg (hplain _ kind).1, plainNames, if_neg (hplain _ kind).2,
      if_pos kind, flatMap_namedChildren fun c hc => ?_, Declared.names]
    · rw [← flatMap_filter (p := fun c => c.kind = .variableDeclarator) fun c hc => ?_]
      · rw [List.filterMap_map, List.filterMap_eq_flatMap_toList]
        refine List.flatMap_congr fun c hc => ?_
        rw [declaratorName_eq, if_pos (of_decide_eq_true (List.mem_filter.1 hc).2)]
        rfl
      · rw [declaratorName_eq, if_neg (of_decide_eq_false hc)]
    · rw [declaratorName_eq, if_neg]
      rintro hk
      rw [hk] at hc
      exact absurd hc (by decide)
  | @ambient n w inner d kind parts word h ih =>
    rw [declaredNames_eq, if_pos kind, flatMap_namedChildren fun c hc => hnone c (hsmall _ hc),
      parts, List.flatMap_cons, List.flatMap_singleton, ih, hnone w, List.nil_append,
      Declared.names]
    rw [word.kind]
    decide
  | @surroundings n w rest kind parts word plain =>
    have hplain : ∀ k ∈ surroundingKinds, k ∉
        Kind.ambientDeclaration :: namedDeclarations ++ variableDeclarations := by decide
    rw [declaredNames_eq, if_pos kind, flatMap_namedChildren fun c hc => hnone c (hsmall _ hc),
      parts, List.flatMap_cons, hnone w, List.nil_append, Declared.names, List.flatMap_eq_nil_iff]
    · exact fun c hc => hnone c (hplain _ (plain c hc))
    · rw [word.kind]
      decide
  | @silent n kind =>
    have hplain : ∀ k ∈ silentDeclarations, k ∉
        Kind.ambientDeclaration :: namedDeclarations ++ variableDeclarations := by decide
    exact hnone n (hplain _ kind)

/-! ### Clauses -/

theorem specifierName_of_isSpecifier {n : Node} {x : Specifier} (h : IsSpecifier n x) :
    specifierName n = [x.exported] := by
  cases h with
  | plain kind name_eq spells single =>
    rw [specifierName, if_pos kind, single, name_eq]
    exact congrArg (fun s => [s]) (unquoted_of_spells spells)
  | renamed kind name_eq spells newName_eq spells' =>
    rw [specifierName, if_pos kind, newName_eq]
    exact congrArg (fun s => [s]) (unquoted_of_spells spells')

/-- Related lists give the same names if related members do. -/
theorem flatMap_of_forall₂ {α : Type} {R : Node → α → Prop} {f : Node → List String}
    {g : α → List String} (hR : ∀ n a, R n a → f n = g a) {ns : List Node} {as : List α}
    (h : List.Forall₂ R ns as) : ns.flatMap f = as.flatMap g := by
  rw [List.flatMap_def, List.flatMap_def, map_eq_of_forall₂ (fun n a hna => (hR n a hna).symm) h]

theorem clauseNames_of_isClause {n : Node} {xs : List Specifier} (h : IsClause n xs) :
    clauseNames n = xs.map Specifier.exported := by
  have hnone : ∀ c : Node, c.kind ≠ .exportSpecifier → specifierName c = [] := fun c hc => if_neg hc
  have hnamed : clauseNames n = n.constituents.flatMap specifierName := by
    rw [clauseNames, if_pos h.kind]
    refine flatMap_namedChildren (fun c hc => hnone c ?_) n
    rintro hk
    rw [hk] at hc
    exact absurd hc (by decide)
  rw [hnamed, ← flatMap_filter (p := fun c => c.kind = .exportSpecifier)
    (fun c hc => hnone c (of_decide_eq_false hc)), List.map_eq_flatMap]
  exact flatMap_of_forall₂ (R := IsSpecifier) (fun _ _ => specifierName_of_isSpecifier) h.specifiers

/-! ### Statements -/

/-- Whether the word stands among the nodes. -/
def hasWord (word : String) (cs : List Node) : Bool :=
  cs.any fun c => c.kind = .token && c.text = word

/-- The declaration among the nodes. -/
def declaration? (cs : List Node) : Option Node := cs.find? fun c => c.role = some .declaration

/-- What is read of the nodes behind the word `export`. -/
def restNames (rest : List Node) : List String :=
  if hasWord "=" rest then []
  else
    match declaration? rest with
    | some d =>
      if hasWord "default" rest ∧ d.kind ∈ valueDeclarations then ["default"] else declaredNames d
    | none => if hasWord "default" rest then ["default"] else rest.flatMap clauseNames

/-- A node that says nothing of the names of an export. -/
structure Quiet (c : Node) : Prop where
  role : c.role ≠ some .declaration
  kind : c.kind ≠ .exportClause
  word : c.kind = .token → c.text ≠ "=" ∧ c.text ≠ "default"

theorem quiet_of_isToken {c : Node} {w : String} (h : c.IsToken w) (hw : w ≠ "=")
    (hw' : w ≠ "default") : Quiet c :=
  ⟨by rw [h.role]; nofun, by rw [h.kind]; nofun, fun _ => h.text ▸ ⟨hw, hw'⟩⟩

theorem quiet_of_kind {c : Node} (hrole : c.role = none) (hclause : c.kind ≠ .exportClause)
    (htoken : c.kind ≠ .token) : Quiet c :=
  ⟨by rw [hrole]; nofun, hclause, fun h => absurd h htoken⟩

theorem quiet_of_isEnding {c : Node} (h : IsEnding c) : Quiet c := by
  obtain ⟨hrole, hkind | hkind | ⟨w, hw, htoken⟩⟩ := h
  · exact quiet_of_kind hrole (by rw [hkind]; nofun) (by rw [hkind]; nofun)
  · exact quiet_of_kind hrole (by rw [hkind]; nofun) (by rw [hkind]; nofun)
  · have hwords : ∀ w ∈ ["from", "with", "assert", ";"], w ≠ "=" ∧ w ≠ "default" := by decide
    exact quiet_of_isToken htoken (hwords w hw).1 (hwords w hw).2

section quiet

variable {cs ds : List Node} (h : ∀ c ∈ cs, Quiet c)

include h

theorem hasWord_quiet {word : String} (hword : word ∈ ["=", "default"]) :
    hasWord word cs = false := by
  rw [hasWord, List.any_eq_false]
  intro c hc htoken
  rw [Bool.and_eq_true, decide_eq_true_iff, decide_eq_true_iff] at htoken
  obtain ⟨hequals, hdefault⟩ := (h c hc).word htoken.1
  simp only [List.mem_cons, List.not_mem_nil, or_false] at hword
  rcases hword with rfl | rfl
  · exact hequals htoken.2
  · exact hdefault htoken.2

theorem declaration?_quiet : declaration? cs = none := by
  rw [declaration?, List.find?_eq_none]
  exact fun c hc => by simpa using (h c hc).role

theorem flatMap_quiet : cs.flatMap clauseNames = [] :=
  List.flatMap_eq_nil_iff.2 fun c hc => if_neg (h c hc).kind

/-- What is read does not depend on such nodes. -/
theorem restNames_append_quiet : restNames (ds ++ cs) = restNames ds := by
  have hany : ∀ word ∈ ["=", "default"], hasWord word (ds ++ cs) = hasWord word ds := by
    intro word hword
    have hcs := hasWord_quiet h hword
    rw [hasWord] at hcs ⊢
    rw [List.any_append, hcs, Bool.or_false, hasWord]
  have hfind : declaration? (ds ++ cs) = declaration? ds := by
    have hcs := declaration?_quiet h
    rw [declaration?] at hcs ⊢
    rw [List.find?_append, hcs, Option.or_none, declaration?]
  rw [restNames, restNames, hany _ (by decide), hany _ (by decide), hfind, List.flatMap_append,
    flatMap_quiet h, List.append_nil]

theorem restNames_quiet_append : restNames (cs ++ ds) = restNames ds := by
  have hany : ∀ word ∈ ["=", "default"], hasWord word (cs ++ ds) = hasWord word ds := by
    intro word hword
    have hcs := hasWord_quiet h hword
    rw [hasWord] at hcs ⊢
    rw [List.any_append, hcs, Bool.false_or, hasWord]
  have hfind : declaration? (cs ++ ds) = declaration? ds := by
    have hcs := declaration?_quiet h
    rw [declaration?] at hcs ⊢
    rw [List.find?_append, hcs, Option.none_or, declaration?]
  rw [restNames, restNames, hany _ (by decide), hany _ (by decide), hfind, List.flatMap_append,
    flatMap_quiet h, List.nil_append]

theorem restNames_quiet : restNames cs = [] := by
  have hnil : restNames ([] ++ cs) = restNames [] := restNames_append_quiet h
  rwa [List.nil_append] at hnil

end quiet

/-- Decorators, comments and the word itself change nothing. -/
theorem statementNames_eq {n : Node} {rest : List Node}
    (hcomments : ∀ c ∈ n.children, c.kind = .comment → c.isComment = true) (h : Behind n rest) :
    statementNames n = restNames rest := by
  have htoken : ∀ word, hasToken n word = hasWord word n.constituents := by
    intro word
    rw [hasToken, hasWord, constituents, List.any_filter]
    refine congrArg n.children.any (funext fun c => ?_)
    by_cases hc : c.kind = .token
    · simp [hc]
    · simp [hc]
  have hclause : ∀ c : Node, c.kind ∈ [.token, .comment] → clauseNames c = [] := by
    intro c hc
    rw [clauseNames, if_neg]
    intro hk
    rw [hk] at hc
    exact absurd hc (by decide)
  have hall : statementNames n = restNames n.constituents := by
    rw [statementNames, restNames, htoken, htoken, child?_eq hcomments,
      flatMap_namedChildren hclause]
    rfl
  obtain ⟨before, w, hparts, hw, hbefore⟩ := h
  have hquiet : ∀ c ∈ before ++ [w], Quiet c := by
    rw [List.forall_mem_append, List.forall_mem_singleton]
    refine ⟨fun c hc => ?_, quiet_of_isToken hw (by decide) (by decide)⟩
    obtain ⟨hkind, hrole⟩ := hbefore c hc
    exact quiet_of_kind hrole (by rw [hkind]; decide) (by rw [hkind]; decide)
  have hassoc : before ++ w :: rest = before ++ [w] ++ rest := by simp
  rw [hall, hparts, hassoc, restNames_quiet_append hquiet]

theorem kind_of_declares {n : Node} {d : Declared} (h : Declares n d) : n.kind ≠ .token := by
  have hnamed : ∀ k ∈ namedDeclarations ++ variableDeclarations ++ silentDeclarations,
      k ≠ .token := by
    decide
  simp only [List.mem_append, or_assoc] at hnamed
  cases h with
  | named kind _ => exact hnamed _ (Or.inl kind)
  | bindings kind _ => exact hnamed _ (Or.inr (Or.inl kind))
  | ambient kind _ _ _ => rw [kind]; nofun
  | surroundings kind _ _ _ => rw [kind]; nofun
  | silent kind => exact hnamed _ (Or.inr (Or.inr kind))

theorem restNames_of_means {rest : List Node} {e : Export} (h : Means rest e) :
    restNames rest = e.read := by
  have hends : ∀ {cs : List Node}, (∀ c ∈ cs, IsEnding c) → ∀ c ∈ cs, Quiet c :=
    fun h c hc => quiet_of_isEnding (h c hc)
  have htypes : ∀ {cs : List Node}, (∀ c ∈ cs, c.IsToken "type") → ∀ c ∈ cs, Quiet c :=
    fun h c hc => quiet_of_isToken (h c hc) (by decide) (by decide)
  cases h with
  | @clause types ending clause specifiers word h end_ =>
    have hsingle : restNames [clause] = clauseNames clause := by
      simp [restNames, hasWord, declaration?, h.kind, h.role]
    rw [restNames_quiet_append (htypes word), ← List.singleton_append,
      restNames_append_quiet (hends end_), hsingle, clauseNames_of_isClause h]
    rfl
  | all word h end_ =>
    rw [restNames_quiet_append (htypes word)]
    refine restNames_quiet (List.forall_mem_cons.2 ⟨?_, hends end_⟩)
    exact quiet_of_isToken h (by decide) (by decide)
  | allAs word kind role inner h h' spells end_ =>
    rw [restNames_quiet_append (htypes word)]
    refine restNames_quiet (List.forall_mem_cons.2 ⟨?_, hends end_⟩)
    exact quiet_of_kind role (by rw [kind]; nofun) (by rw [kind]; nofun)
  | @defaultValue w value ending word role kind end_ =>
    have hpair : restNames [w, value] = ["default"] := by
      simp [restNames, hasWord, declaration?, word.kind, word.text, word.role, role, kind]
    have hassoc : w :: value :: ending = [w, value] ++ ending := rfl
    rw [hassoc, restNames_append_quiet (hends end_), hpair]
    rfl
  | @defaultDeclaration w d x word role h =>
    have hkind := kind_of_declares h
    have hpair : restNames [w, d] =
        if d.kind ∈ valueDeclarations then ["default"] else declaredNames d := by
      simp [restNames, hasWord, declaration?, word.kind, word.text, word.role, role, hkind]
    rw [hpair, declaredNames_of_declares h]
    -- a function without a body is the one value that is missing among the declarations of values
    have hother : ∀ k ∈ .ambientDeclaration :: variableDeclarations ++ silentDeclarations,
        k ∉ valueDeclarations := by
      decide
    cases h with
    | @named _ name kind _ =>
      generalize d.kind = k at kind ⊢
      simp only [namedDeclarations, List.mem_cons, List.not_mem_nil, or_false] at kind
      rcases kind with rfl | rfl | rfl | rfl | rfl | rfl | rfl | rfl <;> rfl
    | bindings kind _ => rw [if_neg (hother _ (by simp [kind]))]; rfl
    | ambient kind _ _ _ => rw [if_neg (hother _ (by simp [kind]))]; rfl
    | surroundings kind _ _ _ => rw [if_neg (hother _ (by simp [kind]))]; rfl
    | silent kind => rw [if_neg (hother _ (by simp [kind]))]; rfl
  | @declaration d x role h =>
    have hkind := kind_of_declares h
    have hsingle : restNames [d] = declaredNames d := by
      simp [restNames, hasWord, declaration?, role, hkind]
    rw [hsingle, declaredNames_of_declares h]
    rfl
  | @assignment m value ending word role end_ =>
    simp [restNames, hasWord, word.kind, word.text, Export.read, Export.names]
  | memberAlias kind role =>
    exact restNames_quiet (List.forall_mem_singleton.2
      (quiet_of_kind role (by rw [kind]; nofun) (by rw [kind]; nofun)))
  | globalName word word' kind role end_ =>
    refine restNames_quiet ?_
    rw [List.forall_mem_cons, List.forall_mem_cons, List.forall_mem_cons]
    exact ⟨quiet_of_isToken word (by decide) (by decide),
      quiet_of_isToken word' (by decide) (by decide),
      quiet_of_kind role (by rw [kind]; nofun) (by rw [kind]; nofun), hends end_⟩

/-- **The names of export statements** in a tree of regular nodes. Each of them has a form; whatever
    form a statement has, its names are those that are read of the form; the names of the tree are
    those of its statements, in their order; and they are the names of the form but for two forms.
    -/
theorem names_of_exportStatements {tree : Node} (hregular : ∀ n ∈ tree.visit, n.Regular) :
    ∃ exports : List Export,
      List.Forall₂ Says (tree.visit.filter fun n => n.kind = .exportStatement) exports ∧
      (∀ n ∈ tree.visit, ∀ e, Says n e → statementNames n = e.read) ∧
      moduleNames tree = exports.flatMap Export.read ∧
      ∀ e ∈ exports, e.read = e.names ↔ (∀ s, e ≠ .allAs s) ∧
        ∀ s, e = .defaultDeclaration (.named .functionSignature s) → s = "default" := by
  have hread : ∀ n ∈ tree.visit, ∀ e, Says n e → statementNames n = e.read := by
    rintro n hn e ⟨rest, hbehind, hmeans⟩
    rw [statementNames_eq ?_ hbehind, restNames_of_means hmeans]
    exact fun c hc => (hregular c (mem_visit_of_mem_children hn hc)).comment
  have hsays : ∀ n ∈ tree.visit.filter fun n => n.kind = .exportStatement,
      ∃ e, Says n e ∧ statementNames n = e.read := by
    intro n hn
    rw [List.mem_filter, decide_eq_true_iff] at hn
    obtain ⟨e, he⟩ := (hregular n hn.1).exports hn.2
    exact ⟨e, he, hread n hn.1 e he⟩
  obtain ⟨exports, hexports⟩ := exists_forall₂ hsays
  refine ⟨exports, hexports.imp fun _ _ h => h.1, hread, ?_, fun e _ => e.read_eq_names_iff⟩
  -- nodes of other kinds name nothing
  rw [← flatMap_of_forall₂ (R := fun n e => Says n e ∧ statementNames n = e.read)
    (fun _ _ h => h.2) hexports, moduleNames,
    ← flatMap_filter (p := fun n => n.kind = .exportStatement)
      (fun n hn => if_neg (of_decide_eq_false hn))]
  exact List.flatMap_congr fun n hn => if_pos (of_decide_eq_true (List.mem_filter.1 hn).2)

/-- Another module under one name, and a function without a body. -/
def unreadForms : String := "export*as n from 'm';export default function f()"

/-- The namespace goes unnamed, and the function keeps its own name. -/
theorem names_of_unreadForms :
    (∀ n ∈ (treeOf .typescript unreadForms).visit, n.Regular) ∧
      ∃ exports : List Export,
        List.Forall₂ Says ((treeOf .typescript unreadForms).visit.filter fun n =>
          n.kind = .exportStatement) exports ∧
        exports.flatMap Export.read = ["f"] := by
  have hregular := regular_treeOf .typescript unreadForms
  obtain ⟨exports, hsays, -, hnames, -⟩ := names_of_exportStatements hregular
  have hread : moduleNames (treeOf .typescript unreadForms) = ["f"] := by
    decide +kernel
  exact ⟨hregular, exports, hsays, hnames ▸ hread⟩

end BundleGraph.Exports
