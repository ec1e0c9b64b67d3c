import BundleGraph.Proofs.Syntax.Reading
import BundleGraph.Syntax.Grammar.Types

/-! # What the rules of names, patterns and types read

    The rules refer to each other in circles, so what is proved of one of them
    assumes it of those that it refers to (`Grammar.Reliable`). Here it is proved
    for patterns, parameters, templates and types: each follows its rule, and the
    pieces that it has read are all there at the end.
-/

namespace BundleGraph.Syntax

open Exports

/-- The node of a declaration. -/
structure Piece.IsDeclaration (p : Piece) : Prop extends p.IsNamed where
  declares : ∃ d, Declares p.node d

/-- What a type is in a tree. -/
def typeKinds : List Kind := [.type, .string, .number, .template]

/-- The node of a type. -/
structure Piece.IsType (p : Piece) : Prop where
  role : p.node.role = none
  kind : p.node.kind ∈ typeKinds

/-- All rules read what stands in the source and yield nodes that are more than tokens. Of some
    rules more is known. -/
structure Grammar.Reliable (g : Grammar) : Prop where
  named : ∀ r, Reads (g r) Piece.IsNamed
  declaration : Reads (g .declaration) Piece.IsDeclaration
  block : Reads (g .block) (Piece.IsA .block)
  type : Reads (g .type) Piece.IsType
  primaryType : Reads (g .primaryType) Piece.IsType

theorem Piece.IsType.isNamed {p : Piece} (h : p.IsType) : p.IsNamed := by
  have hnamed : ∀ k ∈ typeKinds, k ≠ .token := by decide
  exact ⟨h.role, hnamed _ h.kind⟩

theorem Piece.IsA.isType {kind : Kind} {p : Piece} (h : p.IsA kind) (hkind : kind ∈ typeKinds) :
    p.IsType :=
  ⟨h.role, h.kind ▸ hkind⟩

theorem ReadsOn.typeNode {acc : List Piece} {p : Parser (List Piece)} (h : ReadsOn acc p Any) :
    ReadsOn acc (Syntax.node .type p) Piece.IsType :=
  (h.nodeIs (by decide)).mono fun _ hp => hp.isA.isType (by decide)

namespace Grammar

variable {g : Grammar}

/-! ### Templates -/

theorem reads_template {filling : Parser Piece} (h : Reads filling Piece.IsNamed) :
    Reads (template filling) (Piece.IsA .template) := by
  have hquote : Source.Forward backquoteEnd? := fun s i j hj => by grind [backquoteEnd?]
  have htext : Source.Forward templateTextEnd? := fun s i j hj => by grind [templateTextEnd?]
  have hescape : Source.Forward templateEscapeEnd? := fun s i j hj => by grind [templateEscapeEnd?]
  have hhole : Source.Forward holeStartEnd? := fun s i j hj => by grind [holeStartEnd?]
  refine (ReadsOn.nodeOf (Q := fun ps => ∀ p ∈ ps, p.node.kind ∈ templateKinds) ?_ (by decide)
    fun ps hsound hkinds => ?_).mono fun p hp => hp.isA
  · refine .seq (reads_leaf hquote (by decide)) fun o ho => ?_
    refine .seq (Reads.many (Q := fun p => p.node.kind ∈ templateKinds) ?_) fun parts hparts => ?_
    · refine .firstOf_cons ?_ (.firstOf_cons ?_ (.firstOf_cons ?_ .firstOf_nil))
      · exact (reads_adjacent htext (by decide)).mono fun p hp => by rw [hp.isA.kind]; decide
      · exact (reads_adjacent hescape (by decide)).mono fun p hp => by rw [hp.isA.kind]; decide
      · refine (ReadsOn.nodeIs (Q := Any) (by decide) ?_).mono fun p hp => by
          rw [hp.isA.kind]; decide
        refine .seq (reads_adjacent hhole (by decide)) fun o _ => ?_
        refine .seq h fun e _ => .seq (reads_mark closeBrace) fun c _ => ?_
        exact .pure (by simp) (any _)
    · refine .seq (reads_adjacent hquote (by decide)) fun c hc => .pure (by simp) ?_
      simp only [List.cons_append, List.forall_mem_cons, List.forall_mem_append,
        List.not_mem_nil, IsEmpty.forall_iff, implies_true, and_true, ho.isA.kind, hc.isA.kind]
      exact ⟨by decide, hparts, by decide⟩
  · refine .of_kind_eq Piece.kind_branch nofun nofun nofun (fun _ c hc => ?_) nofun
    rw [Piece.constituents_branch hsound] at hc
    obtain ⟨p, hp, rfl⟩ := List.mem_map.1 hc
    exact hkinds p hp

/-! ### Calls -/

/-- Pieces of a call: what is called and given to it, its arguments last. -/
def IsCall (ps : List Piece) : Prop :=
  ∃ (front : List Piece) (a : Piece), ps = front ++ [a.as .arguments] ∧
    (∀ x ∈ front, x.node.role ≠ some .arguments) ∧
    (a.node.kind = .arguments ∨ a.node.kind = .template)

theorem reads_callNode {acc : List Piece} {p : Parser (List Piece)} (h : ReadsOn acc p IsCall) :
    ReadsOn acc (node .call p) Piece.IsNamed := by
  refine (h.nodeOf (by decide) fun ps hsound hcall => ?_).mono fun x hx =>
    hx.isA.isNamed (by decide)
  refine .of_kind_eq Piece.kind_branch nofun nofun (fun _ c hc => ?_) nofun nofun
  obtain ⟨front, a, rfl, hfront, ha⟩ := hcall
  rw [Piece.child?_branch_of_first hsound hfront (Piece.role_as _ a)] at hc
  rwa [← Option.some.inj hc, Piece.kind_as]

variable (hg : g.Reliable)

include hg

/-! ### Types beside names -/

theorem reads_colonType :
    Reads (typeAfterColon g) fun xs => ∀ x ∈ xs, x.node.IsToken ":" ∨ x.IsType := by
  refine .seq reads_typesOnly fun _ _ => .seq (reads_mark ":") fun c hc => ?_
  refine .seq hg.type fun t ht => .pure (by simp) ?_
  exact List.forall_mem_cons.2 ⟨Or.inl hc, List.forall_mem_singleton.2 (Or.inr ht)⟩

theorem reads_typeAfterColon : Reads (typeAfterColon g) Any := (reads_colonType hg).toAny

/-- Type arguments play no part. -/
theorem reads_typeArguments :
    Reads (typeArguments g) fun xs => ∀ x ∈ xs, x.IsNamed :=
  .seq reads_typesOnly fun _ _ => ReadsOn.one_forall (hg.named .typeArguments)

theorem reads_typeParameter : Reads (typeParameter g) Any := by
  refine .seq (Reads.many (Q := Any) ?_) fun modifiers _ => ?_
  · refine .seq (reads_wordOf _) fun w _ => .seq (reads_looksLike _) fun _ _ => ?_
    exact .seq (reads_require _) fun _ _ => .pure (by simp) (any _)
  refine .seq (reads_freeName (by decide)) fun name _ => ?_
  refine .seq (.orEmpty ?_) fun bound _ => ?_
  · refine .seq (reads_word _) fun w _ => ?_
    exact .seq (hg.named .type) fun t _ => .pure (by simp) (any _)
  refine .seq (.orEmpty ?_) fun default _ => .pure (by simp) (any _)
  refine .seq (reads_mark _) fun e _ => ?_
  exact .seq (hg.named .type) fun t _ => .pure (by simp) (any _)

theorem reads_typeParameters : Reads (typeParameters g) Any := by
  refine .seq reads_typesOnly fun _ _ => (ReadsOn.one (.node (by decide) ?_)).toAny
  refine .seq (reads_bracket _) fun o _ => ?_
  refine .seq (reads_typeParameter hg).commaList fun ps _ => ?_
  exact .seq (reads_bracket _) fun c _ => .pure (by simp) (any _)

theorem reads_typePredicate : Reads (typePredicate g) Any := by
  refine .seq (Reads.atMostOne (P := Any) ?_) fun asserts _ => ?_
  · refine .seq (reads_word _) fun w _ => .seq reads_sameLine fun _ _ => ?_
    refine .seq (reads_looksLike _) fun _ _ => .seq (reads_require _) fun _ _ => ?_
    refine .seq (reads_nextWord _) fun _ _ => .seq (reads_require _) fun _ _ => ?_
    exact .pure (by simp) (any _)
  refine .seq (reads_anyName (by decide)) fun subject _ => .seq reads_sameLine fun _ _ => ?_
  refine .seq (reads_word _).optional? fun w _ => ?_
  cases w with
  | some w => exact .seq (hg.named .type) fun t _ => .pure (by simp) (any _)
  | none => exact .seq (reads_require _) fun _ _ => .pure (by simp) (any _)

theorem reads_resultType : Reads (resultType g) Piece.IsNamed :=
  .orElse (.node (by decide) (reads_typePredicate hg)) (hg.named .type)

theorem reads_resultAfterColon : Reads (resultAfterColon g) Any := by
  refine .seq reads_typesOnly fun _ _ => ?_
  refine .seq (reads_mark ":") fun c _ => ?_
  exact .seq (reads_resultType hg) fun t _ => .pure (by simp) (any _)

/-! ### Names of properties -/

theorem reads_computedName : Reads (computedName g) Piece.IsNamed :=
  .node (by decide) (reads_enclosed (ReadsOn.one (hg.named .assignment))).toAny

theorem reads_propertyName : Reads (propertyName g) Piece.IsNamed := by
  refine .firstOf_cons ?_ (.firstOf_cons ?_ (.firstOf_cons ?_ (.firstOf_cons ?_
    (.firstOf_cons (reads_computedName hg) .firstOf_nil))))
  · exact (reads_anyName (by decide)).mono fun p hp => hp.isA.isNamed (by decide)
  · exact reads_stringLiteral.mono fun p hp => hp.1.isNamed (by decide)
  · exact reads_numberLiteral.mono fun p hp => hp.isNamed (by decide)
  · exact reads_privateName.mono fun p hp => hp.isNamed (by decide)

/-! ### Patterns -/

theorem reads_initializer : Reads (initializer g) Any := by
  refine .orEmpty ?_
  refine .seq (reads_mark _) fun e _ => ?_
  exact .seq (hg.named .assignment) fun v _ => .pure (by simp) (any _)

theorem reads_patternWithDefault : Reads (patternWithDefault g) Piece.IsNamed := by
  refine .seq (hg.named .pattern) fun p hp => ?_
  exact .seq (reads_initializer hg) fun i _ => .named_wrapped hp (by decide) (by simp)

theorem reads_restPattern : Reads (restPattern g) Piece.IsNamed := by
  refine .node (by decide) (.seq (reads_mark _) fun d _ => ?_)
  exact .seq (hg.named .pattern) fun p _ => .pure (by simp) (any _)

theorem reads_memberPattern : Reads (memberPattern g) Piece.IsNamed := by
  refine .firstOf_cons (reads_restPattern hg) (.firstOf_cons ?_ (.firstOf_cons ?_ .firstOf_nil))
  · refine .node (by decide) (.seq (reads_propertyName hg) fun name _ => ?_)
    refine .seq (reads_mark _) fun c _ => ?_
    exact .seq (reads_patternWithDefault hg) fun p _ => .pure (by simp) (any _)
  · refine .seq (reads_freeName (by decide)) fun name hname => ?_
    refine .seq (reads_initializer hg) fun i _ => ?_
    exact .named_wrapped (hname.isA.isNamed (by decide)) (by decide) (by simp)

theorem reads_pattern : Reads (pattern g) Piece.IsNamed := by
  refine .firstOf_cons ?_ (.firstOf_cons ?_ (.firstOf_cons ?_ .firstOf_nil))
  · exact reads_identifier.mono fun p hp => hp.isA.isNamed (by decide)
  · refine .node (by decide) (reads_enclosed (Reads.commaList ?_)).toAny
    exact (ReadsOn.one (reads_memberPattern hg)).toAny
  · refine .node (by decide) (reads_enclosed (Reads.commaList ?_)).toAny
    exact (ReadsOn.one (.orElse (reads_restPattern hg) (reads_patternWithDefault hg))).toAny

/-! ### Parameters -/

theorem reads_decorator : Reads (decorator g) (Piece.IsA .decorator) := by
  refine (ReadsOn.nodeIs (Q := Any) (by decide) ?_).mono fun p hp => hp.isA
  refine .seq (reads_mark _) fun a _ => ?_
  exact .seq (hg.named .decorated) fun d _ => .pure (by simp) (any _)

omit hg in
theorem reads_parameterModifier : Reads parameterModifier Any := by
  refine .seq reads_typesOnly fun _ _ => .seq (reads_wordOf _) fun w _ => ?_
  refine .seq (reads_looksLike _) fun _ _ => .seq (reads_nextMarkOf _) fun _ _ => ?_
  exact .seq (reads_require _) fun _ _ => .pure (by simp) (any _)

theorem reads_parameter : Reads (parameter g) Piece.IsNamed := by
  refine .node (by decide) (.seq (reads_decorator hg).many fun decorators _ => ?_)
  refine .seq reads_parameterModifier.many fun modifiers _ => ?_
  refine .seq (reads_mark _).atMostOne fun rest _ => ?_
  refine .seq (.orElse (hg.named .pattern).toAny (.seq reads_typesOnly fun _ _ =>
    (reads_word _).toAny)) fun p _ => ?_
  refine .seq (Reads.atMostOne (.seq reads_typesOnly fun _ _ => reads_mark _))
    fun mayBeAbsent _ => ?_
  refine .seq (reads_typeAfterColon hg).orEmpty fun type _ => ?_
  exact .seq (reads_initializer hg) fun i _ => .pure (by simp) (any _)

theorem reads_parameters : Reads (parameters g) Piece.IsNamed :=
  .node (by decide)
    (reads_enclosed (Reads.commaList (ReadsOn.one (reads_parameter hg)).toAny)).toAny

theorem reads_signature : Reads (signature g) Any := by
  refine .seq (reads_typeParameters hg).orEmpty fun types _ => ?_
  refine .seq (reads_parameters hg) fun params _ => ?_
  exact .seq (reads_resultAfterColon hg).orEmpty fun result _ => .pure (by simp) (any _)

/-! ### Types with brackets -/

theorem reads_typeArgumentList : Reads (typeArgumentList g) Piece.IsNamed := by
  refine .node (by decide) (.seq (reads_bracket _) fun o _ => ?_)
  refine .seq (Reads.commaList (ReadsOn.one (hg.named .type)).toAny) fun ts _ => ?_
  exact .seq (reads_bracket _) fun c _ => .pure (by simp) (any _)

theorem reads_indexMember : Reads (indexMember g) Any := by
  have hsign : Reads (mark "+" <|> mark "-") Any :=
    .orElse (reads_mark _).toAny (reads_mark _).toAny
  refine .seq hsign.atMostOne fun sign _ => .seq (reads_word _).atMostOne fun readonly _ => ?_
  refine .seq (reads_enclosed (Q := Any) ?_) fun inside _ => ?_
  · refine .seq (reads_anyName (by decide)) fun name _ => ?_
    refine .seq (P := Any) (.orElse (reads_typeAfterColon hg) ?_) fun keys _ =>
      .pure (by simp) (any _)
    refine .seq (reads_word _) fun w _ => .seq (hg.named .type) fun t _ => ?_
    refine .seq (.orEmpty ?_) fun renamed _ => .pure (by simp) (any _)
    refine .seq (reads_word _) fun w _ => ?_
    exact .seq (hg.named .type) fun t _ => .pure (by simp) (any _)
  refine .seq hsign.atMostOne fun optionalSign _ => ?_
  refine .seq (reads_mark _).atMostOne fun mayBeAbsent _ => ?_
  exact .seq (reads_typeAfterColon hg).orEmpty fun type _ => .pure (by simp) (any _)

omit hg in
theorem reads_typeMemberModifier : Reads typeMemberModifier Any := by
  refine .seq (reads_wordOf _) fun w _ => .seq (reads_looksLike _) fun _ _ => ?_
  refine .seq (reads_looksLike _) fun _ _ => .seq (reads_looksLike _) fun _ _ => ?_
  refine .seq (reads_nextMarkOf _) fun _ _ => .seq (reads_require _) fun _ _ => ?_
  exact .pure (by simp) (any _)

theorem reads_namedMember : Reads (namedMember g) Any := by
  refine .seq reads_typeMemberModifier.many fun modifiers _ => ?_
  refine .seq (reads_propertyName hg) fun name _ => ?_
  refine .seq (Reads.atMostOne (P := Any) (.orElse (reads_mark _).toAny (reads_mark _).toAny))
    fun mayBeAbsent _ => ?_
  refine .seq (Reads.orEmpty (.orElse (reads_signature hg) (reads_typeAfterColon hg)))
    fun rest _ => ?_
  exact .pure (by simp) (any _)

theorem reads_typeMember : Reads (typeMember g) Any := by
  refine .seq (P := Any) (.firstOf_cons (reads_signature hg) (.firstOf_cons ?_ (.firstOf_cons
    (reads_indexMember hg) (.firstOf_cons (reads_namedMember hg) .firstOf_nil)))) fun m _ => ?_
  · refine .seq (reads_word _) fun w _ => ?_
    exact .seq (reads_signature hg) fun s _ => .pure (by simp) (any _)
  refine .seq (Reads.atMostOne (P := Any) (.orElse (reads_mark _).toAny (reads_mark _).toAny))
    fun separator _ => ?_
  exact .pure (by simp) (any _)

theorem reads_objectType : Reads (objectType g) Piece.IsType :=
  .typeNode (reads_enclosed (reads_typeMember hg).manyPieces).toAny

theorem reads_tupleMember : Reads (tupleMember g) Any := by
  refine .seq (reads_mark _).atMostOne fun rest _ => .seq (.orEmpty ?_) fun name _ => ?_
  · refine .seq (reads_anyName (by decide)) fun name _ => ?_
    refine .seq (reads_mark _).atMostOne fun mayBeAbsent _ => ?_
    exact .seq (reads_mark _) fun c _ => .pure (by simp) (any _)
  refine .seq (hg.named .type) fun t _ => ?_
  exact .seq (reads_mark _).atMostOne fun mayBeAbsent _ => .pure (by simp) (any _)

/-! ### Primary types -/

omit hg in
theorem reads_memberWord : Reads (anyName .propertyName <|> privateName) Any :=
  .orElse (reads_anyName (by decide)).toAny reads_privateName.toAny

theorem reads_queried : Reads (queried g) Piece.IsNamed := by
  refine .seq (reads_anyName (by decide)) fun start hstart => ?_
  refine .extend (fun p hp => ?_) (by simp) (hstart.isA.isNamed (by decide))
  refine .firstOf_cons ?_ (.firstOf_cons ?_ (.firstOf_cons ?_ .firstOf_nil))
  · refine .node (by decide) (.seq (P := Any) (.orElse (reads_mark _).toAny (reads_mark _).toAny)
      fun d _ => ?_)
    exact .seq reads_memberWord fun n _ => .pure (by simp) (any _)
  · refine .node (by decide) (.seq reads_sameLine fun _ _ => .seq (reads_mark _) fun o _ => ?_)
    refine .seq (P := Any) (.orElse reads_stringLiteral.toAny (.orElse reads_numberLiteral.toAny
      reads_identifier.toAny)) fun i _ => ?_
    exact .seq (reads_mark _) fun c _ => .pure (by simp) (any _)
  · refine reads_callNode (.seq reads_sameLine fun _ _ => ?_)
    refine .seq (ReadsOn.nodeIs (by decide) (reads_enclosed (Reads.commaList (ReadsOn.one
      (.orElse reads_stringLiteral.toAny (hg.named .type).toAny)).toAny))) fun a ha => ?_
    refine .pure (by simp) ⟨[p.as .function], a, rfl, ?_, Or.inl ha.isA.kind⟩
    simp

omit hg in
theorem reads_dottedTypes : Reads (manyPieces do
    let d ← mark "."
    let n ← anyName .typeName
    pure [d, n]) Any := by
  refine .manyPieces (.seq (reads_mark _) fun d _ => ?_)
  exact .seq (reads_anyName (by decide)) fun n _ => .pure (by simp) (any _)

theorem reads_namedType : Reads (namedType g) Any := by
  refine .seq (P := Any) (.orElse (reads_freeName (by decide)).toAny (reads_wordOf _).toAny)
    fun start _ => ?_
  refine .seq reads_dottedTypes fun more _ => ?_
  exact .seq (reads_typeArguments hg).toAny.orEmpty fun arguments _ => .pure (by simp) (any _)

theorem reads_simpleType : Reads (simpleType g) Piece.IsType := by
  have harguments := (reads_typeArguments hg).toAny.orEmpty
  refine .firstOf_cons ?_ (.firstOf_cons ?_ (.firstOf_cons ?_ (.firstOf_cons ?_
    (.firstOf_cons (.typeNode (reads_namedType hg)) (.firstOf_cons (reads_objectType hg)
    (.firstOf_cons ?_ (.firstOf_cons ?_ (.firstOf_cons ?_ (.firstOf_cons ?_ (.firstOf_cons ?_
    (.firstOf_cons ?_ .firstOf_nil)))))))))))
  · refine .typeNode (.seq (reads_wordOf _) fun w _ => ?_)
    exact .seq (hg.named .primaryType) fun t _ => .pure (by simp) (any _)
  · refine .typeNode (.seq (reads_word _) fun w _ => ?_)
    refine .seq (reads_freeName (by decide)) fun n _ => ?_
    refine .seq (.orEmpty ?_) fun bound _ => .pure (by simp) (any _)
    refine .seq (reads_word _) fun w _ => ?_
    exact .seq (hg.named .primaryType) fun t _ => .pure (by simp) (any _)
  · refine .typeNode (.seq (reads_word _) fun w _ => ?_)
    refine .seq (reads_queried hg) fun q _ => ?_
    exact .seq harguments fun arguments _ => .pure (by simp) (any _)
  · refine .typeNode (.seq (reads_word _) fun w _ => ?_)
    refine .seq (reads_enclosed (Reads.commaList (ReadsOn.one (hg.named .type)).toAny))
      fun a _ => ?_
    refine .seq reads_dottedTypes fun more _ => ?_
    exact .seq harguments fun arguments _ => .pure (by simp) (any _)
  · exact .typeNode (reads_enclosed (reads_tupleMember hg).commaList).toAny
  · exact .typeNode (reads_enclosed (ReadsOn.one (hg.named .type))).toAny
  · exact reads_stringLiteral.mono fun p hp => hp.1.isType (by decide)
  · exact reads_numberLiteral.mono fun p hp => hp.isType (by decide)
  · refine .typeNode (.seq (reads_mark _) fun m _ => ?_)
    exact .seq reads_numberLiteral fun n _ => .pure (by simp) (any _)
  · exact (reads_template (hg.named .type)).mono fun p hp => hp.isType (by decide)

theorem reads_primaryType : Reads (primaryType g) Piece.IsType := by
  refine .seq (reads_simpleType hg) fun t ht => .extend (fun t _ => ?_) (by simp) ht
  refine .typeNode (.seq reads_sameLine fun _ _ => .seq (reads_mark _) fun o _ => ?_)
  refine .seq (hg.named .type).atMostOne fun i _ => ?_
  exact .seq (reads_mark _) fun c _ => .pure (by simp) (any _)

/-! ### Types with operators -/

theorem reads_functionType : Reads (functionType g) Piece.IsType := by
  refine .typeNode (.seq (Reads.atMostOne (P := Any) ?_) fun isAbstract _ => ?_)
  · refine .seq (reads_word _) fun w _ => .seq (reads_nextWord _) fun _ _ => ?_
    exact .seq (reads_require _) fun _ _ => .pure (by simp) (any _)
  refine .seq (reads_word _).atMostOne fun new _ => ?_
  refine .seq (reads_typeParameters hg).orEmpty fun types _ => ?_
  refine .seq (reads_parameters hg) fun params _ => .seq (reads_mark _) fun arrow _ => ?_
  exact .seq (reads_resultType hg) fun result _ => .pure (by simp) (any _)

theorem reads_joinedType : Reads (joinedType g) Piece.IsType := by
  have hjoint : Reads (mark "|" <|> mark "&") Any :=
    .orElse (reads_mark _).toAny (reads_mark _).toAny
  have hmember : Reads (functionType g <|> g .primaryType) Piece.IsType :=
    .orElse (reads_functionType hg) (hg.primaryType)
  refine .seq hjoint.atMostOne fun lead _ => .seq hmember fun t ht => ?_
  refine .seq (.manyPieces ?_) fun more _ => ?_
  · exact .seq hjoint fun m _ => .seq hmember fun t _ => .pure (by simp) (any _)
  split
  · rename_i halone
    rw [Bool.and_eq_true, List.isEmpty_iff, List.isEmpty_iff] at halone
    exact .pure (by simp [halone]) ht
  · exact .branch (by simp) (by decide) fun _ =>
      Piece.IsA.isType ⟨Piece.role_branch, Piece.kind_branch⟩ (by decide)

theorem reads_type : Reads (type g) Piece.IsType := by
  refine .seq (reads_joinedType hg) fun t ht => .seq (.orEmpty ?_) fun condition _ =>
    .wrapped (by decide) ht (fun y hy => hy.isType (by decide)) (by simp)
  refine .seq (reads_word _) fun w _ => .seq (reads_joinedType hg) fun bound _ => ?_
  refine .seq (reads_mark _) fun q _ => .seq (hg.named .type) fun yes _ => ?_
  refine .seq (reads_mark _) fun c _ => ?_
  exact .seq (hg.named .type) fun no _ => .pure (by simp) (any _)

end Grammar

end BundleGraph.Syntax
