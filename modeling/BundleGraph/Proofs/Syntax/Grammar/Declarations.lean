import BundleGraph.Proofs.Syntax.Grammar.Expressions
import BundleGraph.Syntax.Grammar.Declarations

/-! # What the rules of declarations read

    Of every declaration it is proved what it declares (`Declares`): a name, some
    variables, something that is defined elsewhere, or nothing with a name of its
    own.
-/

namespace BundleGraph.Syntax.Grammar

open Exports

theorem reads_leadWord (w : String) : Reads (leadWord w) fun p => p.node.IsToken w :=
  .seq (reads_word w) fun p hp => .seq reads_sameLine fun _ _ => .pure (by simp) hp

variable {g : Grammar} (hg : g.Reliable)

include hg

/-! ### Variables -/

/-- A declarator has a name or a pattern in its place. -/
def IsTarget (p : Piece) : Prop :=
  p.node.kind = .variableDeclarator → (p.node.child? .name).isSome = true

omit hg in
theorem isTarget_of_isToken {p : Piece} {w : String} (h : p.node.IsToken w) : IsTarget p := by
  intro hkind
  rw [h.kind] at hkind
  cases hkind

theorem reads_declarator : Reads (declarator g) IsTarget := by
  have hparts : Reads (declarator g) (Piece.IsMadeOf .variableDeclarator fun ps =>
      ∃ (p : Piece) (rest : List Piece), ps = [] ++ p.as .name :: rest) := by
    refine ReadsOn.nodeIs (by decide) (.seq (hg.named .pattern) fun p _ => ?_)
    refine .seq (Reads.atMostOne (.seq reads_typesOnly fun _ _ => reads_mark _)) fun sure _ => ?_
    refine .seq (reads_typeAfterColon hg).orEmpty fun type _ => ?_
    exact .seq (reads_initializer hg) fun i _ =>
      .pure (by simp) ⟨p, sure ++ type ++ i, by simp⟩
  refine hparts.mono fun d hd _ => ?_
  obtain ⟨ps, rfl, hsound, p, rest, rfl⟩ := hd
  rw [Piece.child?_branch_of_first hsound nofun (p.role_as _)]
  rfl

theorem reads_declarators : Reads (declarators g) fun xs => ∀ x ∈ xs, IsTarget x :=
  (reads_commaList1 (ReadsOn.one_forall (reads_declarator hg))).mono fun _ hxs x hx =>
    (hxs x hx).elim isTarget_of_isToken id

omit hg in
theorem isDeclaration_of_targets {kind : Kind} {p : Piece}
    (h : p.IsMadeOf kind fun ps => ∀ x ∈ ps, IsTarget x) (hkind : kind ∈ variableDeclarations) :
    p.IsDeclaration := by
  have hnamed : ∀ k ∈ variableDeclarations, k ≠ .token := by decide
  refine ⟨h.isA.isNamed (hnamed kind hkind), _, .bindings (h.isA.kind ▸ hkind) ?_⟩
  obtain ⟨ps, hps, htargets⟩ := h.constituents
  rw [hps]
  exact List.forall_mem_map.2 htargets

omit hg in
theorem isDeclaration_of_silent {kind : Kind} {p : Piece} {Q : List Piece → Prop}
    (h : p.IsMadeOf kind Q) (hkind : kind ∈ silentDeclarations) : p.IsDeclaration := by
  have hnamed : ∀ k ∈ silentDeclarations, k ≠ .token := by decide
  exact ⟨h.isA.isNamed (hnamed kind hkind), _, .silent (h.isA.kind ▸ hkind)⟩

theorem reads_variableDeclaration : Reads (variableDeclaration g) Piece.IsDeclaration := by
  have hends : ∀ {xs : List Piece}, (∀ x ∈ xs, x.node.IsToken ";") → ∀ x ∈ xs, IsTarget x :=
    fun h x hx => isTarget_of_isToken (h x hx)
  refine .firstOf_cons ?_ (.firstOf_cons ?_ (.firstOf_cons ?_ .firstOf_nil))
  · refine (ReadsOn.nodeIs (by decide) ?_).mono fun p hp => isDeclaration_of_targets hp (by decide)
    refine .seq (reads_word _) fun w hw => .seq (reads_declarators hg) fun ds hds => ?_
    refine .seq reads_semicolon fun e he => .pure (by simp) ?_
    simp only [List.cons_append, List.forall_mem_cons, List.forall_mem_append]
    exact ⟨isTarget_of_isToken hw, hds, hends he⟩
  · refine (ReadsOn.nodeIs (by decide) ?_).mono fun p hp => isDeclaration_of_targets hp (by decide)
    refine .seq (reads_wordOf _) fun w hw => .seq (reads_declarators hg) fun ds hds => ?_
    refine .seq reads_semicolon fun e he => .pure (by simp) ?_
    obtain ⟨_, _, hw⟩ := hw
    simp only [List.cons_append, List.forall_mem_cons, List.forall_mem_append]
    exact ⟨isTarget_of_isToken hw, hds, hends he⟩
  · refine (ReadsOn.nodeIs (Q := Any) (by decide) ?_).mono fun p hp =>
      isDeclaration_of_silent hp (by decide)
    refine .seq (reads_leadWord _).atMostOne fun a _ => .seq (reads_leadWord _) fun w _ => ?_
    refine .seq (reads_looksLike _) fun _ _ => .seq (reads_require _) fun _ _ => ?_
    refine .seq (reads_declarators hg) fun ds _ => ?_
    exact .seq reads_semicolon fun e _ => .pure (by simp) (any _)

/-! ### Types and namespaces -/

theorem reads_typeHead : Reads (typeHead g) fun xs => ∃ (x : Piece) (rest : List Piece),
    xs = x.as .name :: rest := by
  refine .seq (reads_freeName (by decide)) fun name _ => ?_
  exact .seq (reads_typeParameters hg).orEmpty fun types _ => .pure (by simp) ⟨name, types, rfl⟩

theorem reads_interfaceDeclaration : Reads (interfaceDeclaration g) Piece.IsDeclaration := by
  refine reads_namedNode ?_ (by decide)
  refine .seq (reads_leadWord _) fun w hw => .seq (reads_typeHead hg) fun head hhead => ?_
  refine .seq (.orEmpty ?_) fun parents _ => ?_
  · refine .seq (reads_word _) fun w _ => ?_
    exact .seq (Reads.commaList1 (ReadsOn.one (hg.named .type)).toAny) fun ts _ =>
      .pure (by simp) (any _)
  refine .seq (reads_objectType hg) fun body _ => .pure (by simp) ?_
  obtain ⟨x, rest, rfl⟩ := hhead
  exact ⟨[w], x, rest ++ parents ++ [body], by simp, List.forall_mem_singleton.2 hw.role⟩

theorem reads_typeAlias : Reads (typeAlias g) Piece.IsDeclaration := by
  refine reads_namedNode ?_ (by decide)
  refine .seq (reads_leadWord _) fun w hw => .seq (reads_typeHead hg) fun head hhead => ?_
  refine .seq (reads_mark _) fun m _ => .seq (hg.named .type) fun t _ => ?_
  refine .seq reads_semicolon fun e _ => .pure (by simp) ?_
  obtain ⟨x, rest, rfl⟩ := hhead
  exact ⟨[w], x, rest ++ m :: t :: e, by simp, List.forall_mem_singleton.2 hw.role⟩

theorem reads_enumeration : Reads (enumeration g) Piece.IsDeclaration := by
  refine reads_namedNode ?_ (by decide)
  refine .seq (reads_word _).atMostOne fun const hconst => .seq (reads_word _) fun w hw => ?_
  refine .seq reads_identifier fun name _ => .seq
    (.node (by decide) (reads_enclosed (Q := Any) ?_).toAny) fun body _ =>
      .pure (by simp) ⟨const ++ [w], name, [body], by simp, ?_⟩
  · refine Reads.commaList (.seq (reads_propertyName hg) fun n _ => ?_)
    exact .seq (reads_initializer hg) fun i _ => .pure (by simp) (any _)
  · rw [List.forall_mem_append, List.forall_mem_singleton]
    exact ⟨fun x hx => (hconst x hx).role, hw.role⟩

omit hg in
theorem reads_dottedName : Reads dottedName Any := by
  refine .seq reads_identifier fun n _ => .seq (.manyPieces ?_) fun more _ =>
    .pure (by simp) (any _)
  refine .seq (reads_mark _) fun d _ => ?_
  exact .seq (reads_anyName (by decide)) fun n _ => .pure (by simp) (any _)

theorem reads_namespaceDeclaration : Reads (namespaceDeclaration g) Piece.IsDeclaration := by
  refine (ReadsOn.nodeIs (Q := Any) (by decide) ?_).mono fun p hp =>
    isDeclaration_of_silent hp (by decide)
  refine .seq (P := Any) (.orElse (reads_leadWord _).toAny (reads_leadWord _).toAny) fun w _ => ?_
  refine .seq (P := Any) (.orElse (ReadsOn.one reads_stringLiteral).toAny reads_dottedName)
    fun name _ => ?_
  refine .seq (reads_nextMark _) fun _ _ => .ite (fun _ => ?_) fun _ => ?_
  · exact .seq (hg.named .block) fun body _ => .pure (by simp) (any _)
  · exact .seq reads_semicolon fun e _ => .pure (by simp) (any _)

omit hg in
theorem reads_importAlias : Reads importAlias (Piece.IsMadeOf .importAlias Any) := by
  refine .nodeIs (by decide) (.seq (reads_word _) fun w _ => ?_)
  refine .seq (Reads.atMostOne (P := Any) ?_) fun type _ => ?_
  · refine .seq (reads_word _) fun t _ => .seq (reads_notBefore _) fun _ _ => ?_
    exact .pure (by simp) (any _)
  refine .seq reads_identifier fun name _ => .seq (reads_mark _) fun m _ => ?_
  refine .seq reads_dottedName fun target _ => ?_
  exact .seq reads_semicolon fun e _ => .pure (by simp) (any _)

/-! ### What is defined elsewhere -/

/-- What stands behind the word `declare`. -/
def IsAmbient (ps : List Piece) : Prop :=
  (∃ (p : Piece) (d : Declared), ps = [p] ∧ Declares p.node d) ∨
    ∀ x ∈ ps, x.node.kind ∈ surroundingKinds

theorem reads_ambientDeclaration : Reads (ambientDeclaration g) Piece.IsDeclaration := by
  have hparts : Reads (ambientDeclaration g) (Piece.IsMadeOf .ambientDeclaration fun ps =>
      ∃ w rest, ps = w :: rest ∧ w.node.IsToken "declare" ∧ IsAmbient rest) := by
    refine ReadsOn.nodeIs (by decide) (.seq (reads_leadWord _) fun w hw => ?_)
    refine .seq (P := IsAmbient) (.firstOf_cons ?_ (.firstOf_cons ?_ (.firstOf_cons ?_
      .firstOf_nil))) fun rest hrest => .pure (by simp) ⟨w, rest, rfl, hw, hrest⟩
    · refine .seq (reads_word _) fun o ho => .seq hg.block fun b hb => .pure (by simp) (Or.inr ?_)
      simp [ho.kind, hb.kind, surroundingKinds]
    · refine .seq (reads_word _) fun m hm => .seq (reads_mark _) fun d hd => ?_
      refine .seq (reads_anyName (by decide)) fun n hn => ?_
      refine .seq (reads_colonType hg) fun t ht => .seq reads_semicolon fun e he => ?_
      have htypes : ∀ k ∈ typeKinds, k ∈ surroundingKinds := by decide
      have hend : ∀ x ∈ t ++ e, x.node.kind ∈ surroundingKinds := by
        rw [List.forall_mem_append]
        refine ⟨fun x hx => ?_, fun x hx => by simp [(he x hx).kind, surroundingKinds]⟩
        rcases ht x hx with hcolon | htype
        · simp [hcolon.kind, surroundingKinds]
        · exact htypes _ htype.kind
      refine .pure (by simp) (Or.inr ?_)
      simpa [hm.kind, hd.kind, hn.isA.kind, surroundingKinds] using hend
    · refine (ReadsOn.one hg.declaration).mono fun xs hxs => ?_
      obtain ⟨x, rfl, hx⟩ := hxs
      obtain ⟨d, hd⟩ := hx.declares
      exact Or.inl ⟨x, d, rfl, hd⟩
  refine hparts.mono fun p hp => ⟨hp.isA.isNamed (by decide), ?_⟩
  obtain ⟨ps, hps, w, rest, rfl, hw, hrest⟩ := hp.constituents
  rcases hrest with ⟨x, d, rfl, hd⟩ | hplain
  · exact ⟨_, .ambient hp.isA.kind hps hw hd⟩
  · exact ⟨_, .surroundings hp.isA.kind hps hw (List.forall_mem_map.2 hplain)⟩

/-! ### Declarations -/

omit hg in
/-- What is declared does not depend on the part that the declaration plays. -/
theorem declares_as {p : Piece} {d : Declared} (r : Role) (h : Declares p.node d) :
    Declares (p.as r).node d := by
  have hkind := p.kind_as r
  have hbare : (p.as r).node.bare = p.node.bare := congrArg Piece.node (p.bare_as r)
  have hconstituents : (p.as r).node.constituents = p.node.constituents := by
    rw [← Node.constituents_bare, hbare, Node.constituents_bare]
  have hchild : ∀ r', (p.as r).node.child? r' = p.node.child? r' := fun r' => by
    rw [← Node.child?_bare, hbare, Node.child?_bare]
  cases h with
  | named kind name_eq =>
    rw [← hkind] at kind ⊢
    exact .named kind ((hchild _).trans name_eq)
  | bindings kind targets =>
    rw [← hconstituents] at targets ⊢
    exact .bindings (hkind ▸ kind) targets
  | ambient kind parts word h =>
    exact .ambient (hkind.trans kind) (hconstituents.trans parts) word h
  | surroundings kind parts word plain =>
    exact .surroundings (hkind.trans kind) (hconstituents.trans parts) word plain
  | silent kind => exact .silent (hkind ▸ kind)

theorem reads_declaration : Reads (declaration g) Piece.IsDeclaration := by
  refine .firstOf_cons (reads_functionDeclaration hg) (.firstOf_cons (reads_classDeclaration hg)
    (.firstOf_cons ?_ (.firstOf_cons (reads_variableDeclaration hg) .firstOf_nil)))
  refine .seq reads_typesOnly fun _ _ => ?_
  refine .firstOf_cons (reads_enumeration hg) (.firstOf_cons (reads_interfaceDeclaration hg)
    (.firstOf_cons (reads_typeAlias hg) (.firstOf_cons (reads_namespaceDeclaration hg)
    (.firstOf_cons (reads_ambientDeclaration hg) (.firstOf_cons ?_ .firstOf_nil)))))
  exact reads_importAlias.mono fun p hp => isDeclaration_of_silent hp (by decide)

end BundleGraph.Syntax.Grammar
