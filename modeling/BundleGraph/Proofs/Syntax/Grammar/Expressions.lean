import BundleGraph.Proofs.Syntax.Grammar.Members
import BundleGraph.Syntax.Grammar.Expressions

/-! # What the rules of expressions read

    The rules of expressions are followed like those of types. Two things are new.
    What has been read as an expression may turn out to be a pattern, and becomes
    one where it stands (`Row.toPattern`). And operands and operators are first
    read in a row and then grouped by the levels of the operators; grouping puts
    pieces together and leaves them in their order (`row_group`).
-/

namespace BundleGraph.Syntax

/-! ### Patterns out of expressions -/

namespace Node

theorem toPatterns_eq_map (ns : List Node) : toPatterns ns = ns.map toPattern := by
  induction ns with
  | nil => rw [toPatterns, List.map_nil]
  | cons n ns ih => rw [toPatterns, ih, List.map_cons]

/-- What is no pattern stays as it is. Otherwise only the kind changes, of the node or also of those
    in it. -/
theorem toPattern_cases (n : Node) :
    n.toPattern = n ∨ ∃ r k k' cs cs', n = .branch r k cs ∧ n.toPattern = .branch r k' cs' ∧
      k' ∉ .token :: tellingKinds ∧ (cs' = cs ∨ cs' = cs.map toPattern) := by
  unfold toPattern
  simp only [toPatterns_eq_map]
  split
  · exact Or.inr ⟨_, _, _, _, _, rfl, rfl, by decide, Or.inr rfl⟩
  · exact Or.inr ⟨_, _, _, _, _, rfl, rfl, by decide, Or.inr rfl⟩
  · exact Or.inr ⟨_, _, _, _, _, rfl, rfl, by decide, Or.inr rfl⟩
  · exact Or.inr ⟨_, _, _, _, _, rfl, rfl, by decide, Or.inr rfl⟩
  · exact Or.inr ⟨_, _, _, _, _, rfl, rfl, by decide, Or.inl rfl⟩
  · exact Or.inl rfl

/-- A pattern has the text of the expression. -/
theorem source_toPattern (n : Node) : n.toPattern.source = n.source := by
  have hall : ∀ cs : List Node, (∀ c ∈ cs, c.toPattern.source = c.source) →
      textOfAll false (cs.map toPattern) = textOfAll false cs := by
    intro cs h
    induction cs with
    | nil => rfl
    | cons c cs ih =>
      rw [List.forall_mem_cons] at h
      rw [List.map_cons, textOfAll_cons, textOfAll_cons, h.1, ih h.2]
  induction n using Node.induction with
  | leaf => rfl
  | branch role kind cs ih =>
    obtain h | ⟨r, k, k', cs₁, cs', hn, h, -, rfl | rfl⟩ := toPattern_cases (.branch role kind cs)
    · rw [h]
    · cases hn
      rw [h, source_branch, source_branch]
    · cases hn
      rw [h, source_branch, source_branch, hall cs ih]

/-- The kinds of patterns say nothing, so nodes stay regular. -/
theorem regular_toPattern {n : Node} (h : ∀ x ∈ n.visit, x.Regular) :
    ∀ x ∈ n.toPattern.visit, x.Regular := by
  induction n using Node.induction with
  | leaf => exact h
  | branch role kind cs ih =>
    rw [visit_eq, List.forall_mem_cons] at h
    have hinside : ∀ c ∈ cs, ∀ x ∈ c.visit, x.Regular := fun c hc x hx =>
      h.2 x (List.mem_flatMap.2 ⟨c, hc, hx⟩)
    obtain hp | ⟨r, k, k', cs₁, cs', hn, hp, hk, hcs⟩ := toPattern_cases (.branch role kind cs)
    · rw [hp, visit_eq, List.forall_mem_cons]
      exact h
    · cases hn
      rw [List.mem_cons, not_or] at hk
      rw [hp, visit_eq, List.forall_mem_cons]
      refine ⟨regular_of_kind hk.2, fun x hx => ?_⟩
      obtain ⟨c, hc, hx⟩ := List.mem_flatMap.1 hx
      rcases hcs with rfl | rfl
      · exact hinside c hc x hx
      · obtain ⟨d, hd, rfl⟩ := List.mem_map.1 (show c ∈ cs.map toPattern from hc)
        exact ih d hd (hinside d hd) x hx

/-- What is neither a token nor a comment becomes neither. -/
theorem kind_toPattern_ne {n : Node} {k : Kind} (hk : k ∈ [.token, .comment]) (h : n.kind ≠ k) :
    n.toPattern.kind ≠ k := by
  obtain hp | ⟨r, k₁, k', cs, cs', rfl, hp, hk', -⟩ := n.toPattern_cases
  · rwa [hp]
  · rw [hp]
    rintro rfl
    have hsubset : ∀ k ∈ [Kind.token, .comment], k ∈ .token :: tellingKinds := by decide
    exact hk' (hsubset _ hk)

end Node

theorem Piece.Sound.toPattern {p : Piece} (h : p.Sound) : p.toPattern.Sound :=
  ⟨h.before, Node.kind_toPattern_ne (by decide) h.node, Node.regular_toPattern h.regular⟩

/-- An expression becomes a pattern where it stands. -/
theorem Row.toPattern {s : Source} {i j : Nat} {xs : List Piece} {p : Piece}
    (h : Row s i (xs ++ [p]) j) : Row s i (xs ++ [p.toPattern]) j where
  le := h.le
  text := by
    have hnodes : Node.textOfAll false p.toPattern.nodes = Node.textOfAll false p.nodes := by
      rw [Piece.nodes, Piece.nodes, Node.textOfAll_append, Node.textOfAll_append,
        Node.textOfAll_cons, Node.textOfAll_cons, Piece.toPattern, Node.source_toPattern]
    rw [← h.text, List.flatMap_append, List.flatMap_append, Node.textOfAll_append,
      Node.textOfAll_append, List.flatMap_singleton, List.flatMap_singleton, hnodes]
  sound := by
    have hsound := h.sound
    rw [List.forall_mem_append, List.forall_mem_singleton] at hsound ⊢
    exact ⟨hsound.1, hsound.2.toPattern⟩

/-- A piece may be read as a pattern by what follows it. -/
theorem ReadsOn.afterPattern {α : Type} [HasPieces α] (acc : List Piece) {x : Piece} {p : Parser α}
    {Q : α → Prop} (h : ReadsOn (acc ++ [x.toPattern]) p Q) : ReadsOn (acc ++ [x]) p Q :=
  h.replace fun _ _ _ hrow => hrow.toPattern

namespace Grammar

/-! ### Grouping operands -/

instance : HasPieces Infix := ⟨fun x => [x.operator, x.right]⟩

/-- The pieces of operands that wait, which are listed last first. -/
def waitingPieces (ws : List Waiting) : List Piece :=
  ws.reverse.flatMap fun w => [w.left, w.operator]

/-- Kinds of nodes that operators make. -/
def operationKinds : List Kind := [.binary, .asType]

theorem waitingPieces_cons (w : Waiting) (ws : List Waiting) :
    waitingPieces (w :: ws) = waitingPieces ws ++ [w.left, w.operator] := by
  rw [waitingPieces, List.reverse_cons, List.flatMap_append, List.flatMap_singleton, waitingPieces]

theorem isNamed_operation {kind : Kind} {ps : List Piece} (h : kind ∈ operationKinds) :
    (Piece.branch kind ps).IsNamed := by
  have hnamed : ∀ k ∈ operationKinds, k ≠ .token := by decide
  exact ⟨Piece.role_branch, Piece.kind_branch.trans_ne (hnamed kind h)⟩

/-- Those that wait and are given their right operand make nodes of the pieces that stand there. -/
theorem row_give {s : Source} {i j : Nat} (level : Nat) (ys : List Piece) {ws : List Waiting}
    (hws : ∀ w ∈ ws, w.kind ∈ operationKinds) {p : Piece}
    (h : Row s i (waitingPieces ws ++ p :: ys) j) :
    Row s i (waitingPieces (give level p ws).2 ++ (give level p ws).1 :: ys) j ∧
      ∀ w ∈ (give level p ws).2, w.kind ∈ operationKinds := by
  have htelling : ∀ k ∈ operationKinds, k ∉ tellingKinds := by decide
  induction ws generalizing p with
  | nil => exact ⟨h, hws⟩
  | cons w ws ih =>
    rw [give]
    split
    · rw [List.forall_mem_cons] at hws
      have hrow : Row s i (waitingPieces ws ++ [w.left, w.operator, p] ++ ys) j := by
        rw [waitingPieces_cons] at h
        simpa using h
      have hkind := htelling w.kind hws.1
      refine ih hws.2 (hrow.branch fun hsound => ?_)
      exact .branch hsound (fun hc => hkind (hc ▸ List.mem_cons_self))
        (Node.regular_of_kind (Piece.kind_branch ▸ hkind))
    · exact ⟨h, hws⟩

theorem isNamed_give {ws : List Waiting} (hws : ∀ w ∈ ws, w.kind ∈ operationKinds) {p : Piece}
    (hp : ws = [] → p.IsNamed) : (give 0 p ws).1.IsNamed := by
  induction ws generalizing p with
  | nil => exact hp rfl
  | cons w ws ih =>
    rw [List.forall_mem_cons] at hws
    rw [give, if_pos (Nat.zero_le _)]
    exact ih hws.2 fun _ => isNamed_operation hws.1

/-- Grouping leaves operands and operators in their order. -/
theorem row_group {s : Source} {i j : Nat} {xs : List Infix} {p : Piece} (ws : List Waiting)
    (hxs : ∀ x ∈ xs, x.kind ∈ operationKinds) (hws : ∀ w ∈ ws, w.kind ∈ operationKinds)
    (hp : ws = [] → xs = [] → p.IsNamed) (h : Row s i (waitingPieces ws ++ p :: pieces xs) j) :
    Row s i [group p ws xs] j ∧ (group p ws xs).IsNamed := by
  induction xs generalizing p ws with
  | nil =>
    rw [group]
    refine ⟨?_, isNamed_give hws fun hnil => hp hnil rfl⟩
    -- at level zero all that waits is given its operand
    have hnone : ∀ (ws : List Waiting) (p : Piece), (give 0 p ws).2 = [] := by
      intro ws
      induction ws with
      | nil => exact fun p => rfl
      | cons w ws ih =>
        intro p
        rw [give, if_pos (Nat.zero_le _), ih]
    have hrow := (row_give 0 [] hws h).1
    rwa [hnone] at hrow
  | cons x xs ih =>
    rw [List.forall_mem_cons] at hxs
    obtain ⟨hrow, hkinds⟩ := row_give (if x.fromRight then x.level + 1 else x.level) _ hws h
    refine ih _ hxs.2 (List.forall_mem_cons.2 ⟨hxs.1, hkinds⟩) nofun ?_
    rw [waitingPieces_cons]
    simpa [pieces] using hrow

variable {g : Grammar} (hg : g.Reliable)

include hg

/-! ### What stands alone -/

theorem reads_arguments : Reads (arguments g) (Piece.IsA .arguments) :=
  (ReadsOn.nodeIs (by decide) (reads_enclosed (Reads.commaList
    (ReadsOn.one (.orElse (reads_spread hg) (hg.named .assignment))).toAny))).mono
    fun p hp => hp.isA

theorem reads_new : Reads (new g) Piece.IsNamed := by
  refine .seq (reads_word _) fun w _ => .firstOf_cons ?_ (.firstOf_cons ?_ .firstOf_nil)
  · refine .node (by decide) (.seq (reads_mark _) fun d _ => ?_)
    exact .seq (reads_word _) fun t _ => .pure (by simp) (any _)
  · refine .node (by decide) (.seq (hg.named .constructed) fun c _ => ?_)
    refine .seq (reads_typeArguments hg).toAny.orEmpty fun types _ => ?_
    exact .seq (reads_arguments hg).atMostOne fun args _ => .pure (by simp) (any _)

theorem reads_dynamicImport : Reads (dynamicImport g) Piece.IsNamed := by
  refine .seq (reads_word _) fun w _ => .firstOf_cons ?_ (.firstOf_cons ?_ .firstOf_nil)
  · refine reads_callNode (.seq (reads_arguments hg) fun args hargs => ?_)
    refine .pure (by simp) ⟨[w.as .function], args, rfl, ?_, Or.inl hargs.kind⟩
    simp
  · refine .node (by decide) (.seq (reads_mark _) fun d _ => ?_)
    exact .seq (reads_anyName (by decide)) fun t _ => .pure (by simp) (any _)

theorem reads_parenthesized : Reads (parenthesized g) Piece.IsNamed := by
  refine .node (by decide) (reads_enclosed (Q := Any) ?_).toAny
  refine .seq (hg.named .expression) fun e _ => ?_
  exact .seq (reads_typeAfterColon hg).orEmpty fun type _ => .pure (by simp) (any _)

omit hg in
theorem reads_wordAs {kind : Kind} (words : List String) (hkind : kind ∉ tellingKinds) :
    Reads (wordAs kind words) (Piece.IsA kind) := by
  refine (reads_name (C := Any) hkind fun s i j h => ?_).mono fun p hp => hp.1.isA
  grind [any]

theorem reads_primary : Reads (primary g) Piece.IsNamed := by
  refine .firstOf_cons (reads_functionExpression hg) (.firstOf_cons ?_ (.firstOf_cons
    (reads_parenthesized hg) (.firstOf_cons ?_ (.firstOf_cons ?_ (.firstOf_cons ?_ (.firstOf_cons
    (reads_array hg) (.firstOf_cons ?_ (.firstOf_cons ?_ (.firstOf_cons ?_ (.firstOf_cons
    (reads_new hg) (.firstOf_cons (reads_classExpression hg) (.firstOf_cons
    (reads_dynamicImport hg) (.firstOf_cons ?_ (.firstOf_cons ?_ (.firstOf_cons ?_
    .firstOf_nil)))))))))))))))
  · exact reads_identifier.mono fun p hp => hp.isA.isNamed (by decide)
  · exact reads_stringLiteral.mono fun p hp => hp.1.isNamed (by decide)
  · exact reads_numberLiteral.mono fun p hp => hp.isNamed (by decide)
  · exact (reads_object hg).mono fun p hp => hp.isNamed (by decide)
  · exact (reads_template (hg.named .expression)).mono fun p hp => hp.isNamed (by decide)
  · exact (reads_wordAs _ (by decide)).mono fun p hp => hp.isNamed (by decide)
  · exact (reads_wordAs _ (by decide)).mono fun p hp => hp.isNamed (by decide)
  · exact .seq reads_theSource fun s _ => .seq (reads_require _) fun _ _ => hg.named .markup
  · exact (reads_leaf Source.forward_regexEnd? (by decide)).mono fun p hp =>
      hp.isA.isNamed (by decide)
  · exact reads_privateName.mono fun p hp => hp.isNamed (by decide)

/-! ### Accesses and calls -/

omit hg in
theorem reads_memberAccess (p : Piece) : ReadsOn [p] (memberAccess p) Piece.IsNamed := by
  refine .node (by decide) (.seq (P := Any) (.orElse (reads_mark _).toAny (reads_mark _).toAny)
    fun d _ => ?_)
  exact .seq reads_memberWord fun n _ => .pure (by simp) (any _)

theorem reads_access (p : Piece) : ReadsOn [p] (access g p) Piece.IsNamed := by
  refine .firstOf_cons (reads_memberAccess p) (.firstOf_cons ?_ (.firstOf_cons ?_ .firstOf_nil))
  · refine .node (by decide) (.seq (reads_mark _).atMostOne fun d _ => ?_)
    refine .seq (reads_mark _) fun o _ => .seq (hg.named .expression) fun e _ => ?_
    exact .seq (reads_mark _) fun c _ => .pure (by simp) (any _)
  · refine .node (by decide) (.seq reads_typesOnly fun _ _ => .seq reads_sameLine fun _ _ => ?_)
    exact .seq (reads_mark _) fun m _ => .pure (by simp) (any _)

omit hg in
theorem reads_standsAlone : Reads standsAlone Any :=
  .seq reads_lineEndsHere fun _ _ => .ite (fun _ => .pure rfl (any _)) fun _ =>
    .seq reads_sourceEndsHere fun _ _ => .ite (fun _ => .pure rfl (any _)) fun _ =>
      reads_nextMarkOf _

theorem reads_call (p : Piece) : ReadsOn [p] (call g p) Piece.IsNamed := by
  have hoptional : Reads (orEmpty (typeArguments g)) fun xs => ∀ x ∈ xs, x.IsNamed := by
    refine (reads_typeArguments hg).emptyOr.mono fun xs hxs => ?_
    rcases hxs with rfl | hxs
    · exact nofun
    · exact hxs
  refine .firstOf_cons ?_ (.firstOf_cons ?_ (.firstOf_cons ?_ .firstOf_nil))
  · refine reads_callNode (.seq (reads_mark _).atMostOne fun d hd => ?_)
    refine .iteSeq (.pure rfl nofun) hoptional fun types htypes => ?_
    refine .seq (reads_arguments hg) fun args hargs => .pure (by simp)
      ⟨p.as .function :: d ++ types, args, rfl, ?_, Or.inl hargs.kind⟩
    simp only [List.cons_append, List.forall_mem_cons, List.forall_mem_append]
    exact ⟨by simp, fun x hx => by simp [(hd x hx).role], fun x hx => by simp [(htypes x hx).role]⟩
  · refine reads_callNode (.seq (reads_template (hg.named .expression)) fun t ht => ?_)
    exact .pure (by simp) ⟨[p.as .function], t, rfl, by simp, Or.inr ht.kind⟩
  · refine .seq (reads_typeArguments hg) fun types htypes => ?_
    refine .firstOf_cons ?_ (.firstOf_cons ?_ .firstOf_nil)
    · refine reads_callNode (.seq (P := fun a => a.node.kind = .arguments ∨ a.node.kind = .template)
        (.orElse ?_ ?_) fun args hargs => .pure (by simp)
          ⟨p.as .function :: types, args, rfl, ?_, hargs⟩)
      · exact (reads_arguments hg).mono fun a ha => Or.inl ha.kind
      · exact (reads_template (hg.named .expression)).mono fun a ha => Or.inr ha.kind
      · rw [List.forall_mem_cons]
        exact ⟨by simp, fun x hx => by simp [(htypes x hx).role]⟩
    · refine .node (by decide) (.seq reads_standsAlone fun _ _ => ?_)
      exact .seq (reads_require _) fun _ _ => .pure (by simp) (any _)

theorem reads_further (p : Piece) : ReadsOn [p] (access g p <|> call g p) Piece.IsNamed :=
  .orElse (reads_access hg p) (reads_call hg p)

theorem reads_chain : Reads (chain g) Piece.IsNamed :=
  .seq (reads_primary hg) fun p hp => .extend (fun p _ => reads_further hg p) (by simp) hp

theorem reads_constructed : Reads (constructed g) Piece.IsNamed :=
  .seq (reads_primary hg) fun p hp => .extend (fun p _ => reads_access hg p) (by simp) hp

omit hg in
theorem reads_memberChain : Reads memberChain Piece.IsNamed :=
  .seq reads_identifier fun p hp =>
    .extend (fun p _ => reads_memberAccess p) (by simp) (hp.isA.isNamed (by decide))

theorem reads_decorated : Reads (decorated g) Piece.IsNamed :=
  .orElse (reads_parenthesized hg) (.seq reads_memberChain fun p hp =>
    .orElse (reads_call hg p) (.pure (by simp) hp))

/-! ### Operands -/

theorem reads_arrowFunction (typed : Bool) : Reads (arrowFunction g typed) Piece.IsNamed := by
  refine .seq (Reads.atMostOne (P := Any) ?_) fun async _ => ?_
  · refine .seq reads_asyncWord fun w _ => .seq (reads_notBefore _) fun _ _ => ?_
    exact .pure (by simp) (any _)
  refine .seq (P := Any) (.firstOf_cons ?_ (.firstOf_cons ?_ .firstOf_nil)) fun head _ => ?_
  · refine .seq reads_identifier fun x _ => .seq (reads_nextMark _) fun _ _ => ?_
    exact .seq (reads_require _) fun _ _ => .pure (by simp) (any _)
  · refine .seq (reads_nextMarkOf _) fun _ _ => .seq (reads_require _) fun _ _ => ?_
    refine .seq (reads_typeParameters hg).orEmpty fun types _ => ?_
    refine .seq (reads_parameters hg) fun params _ => ?_
    exact .iteSeq (reads_resultAfterColon hg).orEmpty (.pure rfl (any _)) fun result _ =>
      .pure (by simp) (any _)
  refine .seq reads_sameLine fun _ _ => .seq (reads_mark _) fun arrow _ => ?_
  refine .seq (reads_nextMark _) fun _ _ => .ite (fun _ => ?_) fun _ => ?_
  · refine .seq (hg.named .block) fun body _ => ?_
    -- the function is a node before accesses and calls extend it
    refine ReadsOn.replace (.extend (fun p _ => reads_further hg p) rfl ?_) fun s start i hrow =>
      hrow.all (by simp) (by decide) fun _ => Node.regular_of_kind (by simp [tellingKinds])
    exact ⟨Piece.role_branch, by simp⟩
  · refine .seq (hg.named _) fun body _ => .branch (by simp) (by decide) fun _ => ?_
    exact ⟨Piece.role_branch, by simp⟩

theorem reads_yield (typed : Bool) : Reads (yield g typed) Piece.IsNamed := by
  refine .node (by decide) (.seq (reads_word _) fun w _ => .seq (.orEmpty ?_) fun rest _ =>
    .pure (by simp) (any _))
  refine .seq reads_sameLine fun _ _ => .seq (reads_mark _).atMostOne fun star _ => ?_
  exact .seq (hg.named _) fun e _ => .pure (by simp) (any _)

theorem reads_prefixed (typed : Bool) : Reads (prefixed g typed) Piece.IsNamed := by
  refine .firstOf_cons ?_ (.firstOf_cons ?_ (.firstOf_cons ?_ (.firstOf_cons (reads_yield hg typed)
    .firstOf_nil)))
  · have hmark := fun op => (reads_mark op).toAny
    refine .node (by decide) (.seq (P := Any) (.firstOf_cons (hmark _) (.firstOf_cons (hmark _)
      (.firstOf_cons (hmark _) (.firstOf_cons (hmark _) (.firstOf_cons (reads_wordOf _).toAny
      .firstOf_nil))))) fun o _ => ?_)
    exact .seq (hg.named _) fun e _ => .pure (by simp) (any _)
  · refine .node (by decide) (.seq (P := Any) (.orElse (reads_mark _).toAny (reads_mark _).toAny)
      fun o _ => ?_)
    exact .seq (hg.named _) fun e _ => .pure (by simp) (any _)
  · refine .node (by decide) (.seq (reads_word _) fun w _ => ?_)
    exact .seq (hg.named _) fun e _ => .pure (by simp) (any _)

theorem reads_typeAssertion (typed : Bool) : Reads (typeAssertion g typed) Piece.IsNamed := by
  refine .node (by decide) (.seq reads_theSource fun s _ => .seq (reads_require _) fun _ _ => ?_)
  refine .seq (reads_typeArguments hg) fun types _ => ?_
  exact .seq (hg.named _) fun e _ => .pure (by simp) (any _)

omit hg in
/-- The longest operator that stands at a place. -/
theorem reads_operator :
    Reads (leaf .token fun s i => (s.operator? i).map fun op => i + op.length) Any := by
  refine (reads_leaf (fun s i j h => ?_) (by decide)).toAny
  obtain ⟨op, _, rfl⟩ := Option.map_eq_some_iff.1 h
  exact Nat.le_add_right i op.length

theorem reads_assignmentTo (typed : Bool) (p : Piece) :
    ReadsOn [p] (assignmentTo g typed p) Piece.IsNamed := by
  refine .seq (reads_require _) fun _ _ => .firstOf_cons ?_ (.firstOf_cons ?_ .firstOf_nil)
  · refine .node (by decide) (ReadsOn.afterPattern [] (.seq (reads_mark _) fun m _ => ?_))
    exact .seq (hg.named _) fun e _ => .pure (by simp) (any _)
  · refine .node (by decide) (.seq (reads_nextMarkOf _) fun _ _ => ?_)
    refine .seq (reads_require _) fun _ _ => .seq reads_operator fun m _ => ?_
    exact .seq (hg.named _) fun e _ => .pure (by simp) (any _)

theorem reads_counted (typed : Bool) : Reads (counted g typed) Piece.IsNamed := by
  refine .seq (hg.named .chain) fun p hp => .firstOf_cons ?_ (.firstOf_cons
    (reads_assignmentTo hg typed p) (.firstOf_cons (.pure rfl hp) .firstOf_nil))
  refine .node (by decide) (.seq reads_sameLine fun _ _ => ?_)
  exact .seq (P := Any) (.orElse (reads_mark _).toAny (reads_mark _).toAny) fun m _ =>
    .pure (by simp) (any _)

theorem reads_operand (typed : Bool) : Reads (operand g typed) Piece.IsNamed := by
  refine .firstOf_cons (reads_prefixed hg typed) (.firstOf_cons ?_ (.firstOf_cons
    (reads_arrowFunction hg typed) (.firstOf_cons (reads_typeAssertion hg typed) (.firstOf_cons
    (reads_counted hg typed) .firstOf_nil))))
  refine .seq reads_theSource fun s _ => .seq (reads_nextMark _) fun _ _ => ?_
  exact .seq (reads_require _) fun _ _ => reads_counted hg typed

/-! ### Operators -/

omit hg in
theorem reads_markLevel? : Reads markLevel? Any := by
  refine .of_still fun s i level j h => ?_
  rw [markLevel?] at h
  split at h <;> exact ⟨(Prod.mk.inj (Option.some.inj h)).2, pieces_nat? level, any level⟩

theorem reads_infixed (typed : Bool) :
    Reads (infixed g typed) fun x => x.kind ∈ operationKinds := by
  refine .seq reads_markLevel? fun level _ => ?_
  cases level with
  | some level =>
    refine .seq reads_operator fun op _ => .seq (hg.named _) fun right _ => ?_
    exact .pure (by simp [pieces]) (by simp [operationKinds])
  | none =>
    refine .firstOf_cons ?_ (.firstOf_cons ?_ .firstOf_nil)
    · refine .seq (reads_wordOf _) fun op _ => .seq (hg.named _) fun right _ => ?_
      exact .pure (by simp [pieces]) (by simp [operationKinds])
    · refine .seq reads_typesOnly fun _ _ => .seq (reads_wordOf _) fun op _ => ?_
      refine .seq (P := Any) (.orElse (reads_word _).toAny (hg.named .type).toAny) fun right _ => ?_
      exact .pure (by simp [pieces]) (by simp [operationKinds])

theorem reads_operation (typed : Bool) : Reads (operation g typed) Piece.IsNamed := by
  refine .seq (hg.named _) fun p hp => .seq (reads_infixed hg typed).many fun rest hrest => ?_
  intro s start i x j hrow hx
  obtain ⟨rfl, rfl⟩ := pure_parser_eq_some hx
  exact row_group [] hrest nofun (fun _ _ => hp) hrow

/-! ### Conditions and commas -/

theorem reads_beforeColon (rule : Rule) : Reads (beforeColon g rule) Any :=
  .seq (hg.named rule) fun e _ => .seq (reads_mark _) fun c _ => .pure (by simp) (any _)

theorem reads_assignment (typed : Bool) : Reads (assignment g typed) Piece.IsNamed := by
  refine .seq (reads_operation hg typed) fun p hp => .seq (reads_mark _).optional? fun q _ => ?_
  cases q with
  | none => exact .pure (by simp) hp
  | some q =>
    refine .node (by decide) (.seq reads_hasTypes fun _ _ => ?_)
    refine .iteSeq (.orElse (reads_beforeColon hg _) (reads_beforeColon hg _))
      (reads_beforeColon hg _) fun yes _ => ?_
    exact .seq (hg.named _) fun no _ => .pure (by simp) (any _)

theorem reads_expression : Reads (expression g) Piece.IsNamed := by
  refine .seq (hg.named .assignment) fun p hp => .seq (.manyPieces ?_) fun rest _ =>
    .named_wrapped hp (by decide) (by simp)
  refine .seq (reads_mark _) fun c _ => ?_
  exact .seq (hg.named .assignment) fun e _ => .pure (by simp) (any _)

end Grammar

end BundleGraph.Syntax
