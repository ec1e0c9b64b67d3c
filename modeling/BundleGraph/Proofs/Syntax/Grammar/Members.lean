import BundleGraph.Proofs.Syntax.Grammar.Types
import BundleGraph.Syntax.Grammar.Markup

/-! # What the rules of members and markup read

    The rules of functions, objects, classes and elements are followed like those
    of types. Of a function or a class that is declared it is also proved that its
    name is the first of its children that plays the part of a name.
-/

namespace BundleGraph.Syntax.Grammar

open Exports

/-! ### Declarations with a name -/

/-- One of the pieces is a name, and those before it play no part. -/
def HasName (ps : List Piece) : Prop :=
  ∃ (front : List Piece) (x : Piece) (rest : List Piece), ps = front ++ x.as .name :: rest ∧
    ∀ y ∈ front, y.node.role = none

theorem isDeclaration_of_hasName {kind : Kind} {p : Piece} (h : p.IsMadeOf kind HasName)
    (hkind : kind ∈ namedDeclarations) : p.IsDeclaration := by
  have hnamed : ∀ k ∈ namedDeclarations, k ≠ .token := by decide
  refine ⟨h.isA.isNamed (hnamed kind hkind), ?_⟩
  obtain ⟨ps, rfl, hsound, front, x, rest, rfl, hfront⟩ := h
  have hname : (Piece.branch kind (front ++ x.as .name :: rest)).node.child? .name =
      some (x.as .name).node :=
    Piece.child?_branch_of_first hsound (fun y hy => by rw [hfront y hy]; nofun) (x.role_as _)
  exact ⟨_, .named (Piece.kind_branch ▸ hkind) hname⟩

theorem reads_namedBranch {acc ps : List Piece} {kind : Kind}
    (hps : ps.map Piece.bare = acc.map Piece.bare) (hkind : kind ∈ namedDeclarations)
    (hname : HasName ps) : ReadsOn acc (pure (Piece.branch kind ps)) Piece.IsDeclaration := by
  have htelling : ∀ k ∈ namedDeclarations, k ∉ tellingKinds := by decide
  exact .branch hps (htelling kind hkind) fun hsound =>
    isDeclaration_of_hasName ⟨ps, rfl, hsound, hname⟩ hkind

theorem reads_namedNode {acc : List Piece} {kind : Kind} {p : Parser (List Piece)}
    (h : ReadsOn acc p HasName) (hkind : kind ∈ namedDeclarations) :
    ReadsOn acc (node kind p) Piece.IsDeclaration := by
  have htelling : ∀ k ∈ namedDeclarations, k ∉ tellingKinds := by decide
  exact (h.nodeIs (htelling kind hkind)).mono fun p hp => isDeclaration_of_hasName hp hkind

/-! ### Functions -/

theorem reads_nameIsNext : Reads nameIsNext Any :=
  .seq (reads_looksLike _) fun _ _ => .ite (fun _ => .pure rfl (any _))
    fun _ => reads_nextMarkOf _

theorem reads_memberModifier (words : List String) : Reads (memberModifier words) Any := by
  refine .seq (reads_wordOf _) fun w _ => .seq reads_nameIsNext fun _ _ => ?_
  exact .seq (reads_require _) fun _ _ => .pure (by simp) (any _)

theorem reads_asyncWord : Reads asyncWord fun p => p.node.IsToken "async" :=
  .seq (reads_word _) fun w hw => .seq reads_sameLine fun _ _ => .pure (by simp) hw

variable {g : Grammar} (hg : g.Reliable)

include hg

theorem reads_functionExpression : Reads (functionExpression g) Piece.IsNamed := by
  refine .node (by decide) (.seq reads_asyncWord.atMostOne fun async _ => ?_)
  refine .seq (reads_word _) fun w _ => .seq (reads_mark _).atMostOne fun star _ => ?_
  refine .seq reads_identifier.atMostOne fun name _ => .seq (reads_signature hg) fun s _ => ?_
  exact .seq (hg.named .block) fun body _ => .pure (by simp) (any _)

theorem reads_functionDeclaration : Reads (functionDeclaration g) Piece.IsDeclaration := by
  refine .seq reads_asyncWord.atMostOne fun async hasync => .seq (reads_word _) fun w hw => ?_
  refine .seq (reads_mark _).atMostOne fun star hstar => ?_
  refine .seq reads_identifier fun name _ => .seq (reads_signature hg) fun s _ => ?_
  have hname : ∀ rest, HasName (async ++ w :: star ++ name.as .name :: s ++ rest) := by
    intro rest
    refine ⟨async ++ w :: star, name, s ++ rest, by simp, ?_⟩
    simp only [List.forall_mem_append, List.forall_mem_cons]
    exact ⟨fun y hy => (hasync y hy).role, hw.role, fun y hy => (hstar y hy).role⟩
  refine .seq (reads_nextMark _) fun _ _ => .ite (fun _ => ?_) fun _ => ?_
  · refine .seq (hg.named .block) fun body _ => reads_namedBranch (by simp) ?_ (hname _)
    split <;> decide
  · refine .seq reads_typesOnly fun _ _ => .seq reads_semicolon fun e _ => ?_
    exact reads_namedBranch (by simp) (by decide) (hname _)

/-! ### Objects -/

theorem reads_objectMethod : Reads (objectMethod g) Piece.IsNamed := by
  refine .node (by decide) (.seq (reads_memberModifier _).many fun modifiers _ => ?_)
  refine .seq (reads_mark _).atMostOne fun star _ => .seq (reads_propertyName hg) fun name _ => ?_
  refine .seq (Reads.atMostOne (.seq reads_typesOnly fun _ _ => reads_mark _))
    fun mayBeAbsent _ => ?_
  refine .seq (reads_nextMarkOf _) fun _ _ => .seq (reads_require _) fun _ _ => ?_
  refine .seq (reads_signature hg) fun s _ => ?_
  exact .seq (hg.named .block) fun body _ => .pure (by simp) (any _)

theorem reads_spread : Reads (spread g) Piece.IsNamed := by
  refine .node (by decide) (.seq (reads_mark _) fun d _ => ?_)
  exact .seq (hg.named .assignment) fun e _ => .pure (by simp) (any _)

theorem reads_objectMember : Reads (objectMember g) Piece.IsNamed := by
  refine .firstOf_cons (reads_spread hg) (.firstOf_cons ?_ (.firstOf_cons (reads_objectMethod hg)
    (.firstOf_cons ?_ .firstOf_nil)))
  · refine .node (by decide) (.seq (reads_propertyName hg) fun name _ => ?_)
    refine .seq (reads_mark _) fun c _ => ?_
    exact .seq (hg.named .assignment) fun v _ => .pure (by simp) (any _)
  · refine .seq (reads_anyName (by decide)) fun name hname => ?_
    refine .seq (reads_initializer hg) fun i _ => ?_
    exact .named_wrapped (hname.isA.isNamed (by decide)) (by decide) (by simp)

theorem reads_object : Reads (object g) (Piece.IsA .object) :=
  (ReadsOn.nodeIs (by decide) (reads_enclosed (Reads.commaList
    (ReadsOn.one (reads_objectMember hg)).toAny))).mono fun p hp => hp.isA

theorem reads_array : Reads (array g) Piece.IsNamed :=
  .node (by decide) (reads_enclosed (Reads.commaList
    (ReadsOn.one (.orElse (reads_spread hg) (hg.named .assignment))).toAny)).toAny

/-! ### Classes -/

theorem reads_classMember : Reads (classMember g) Piece.IsNamed := by
  have hmethod : ∀ {acc ps : List Piece}, ps.map Piece.bare = acc.map Piece.bare →
      ReadsOn acc (pure (Piece.branch .method ps)) Piece.IsNamed := fun h =>
    .branch h (by decide) fun _ => ⟨Piece.role_branch, by rw [Piece.kind_branch]; decide⟩
  have hmember : ∀ {acc ps : List Piece}, ps.map Piece.bare = acc.map Piece.bare →
      ReadsOn acc (pure (Piece.branch .classMember ps)) Piece.IsNamed := fun h =>
    .branch h (by decide) fun _ => ⟨Piece.role_branch, by rw [Piece.kind_branch]; decide⟩
  refine .seq (reads_decorator hg).many fun decorators _ => ?_
  refine .seq (reads_memberModifier _).many fun modifiers _ => ?_
  refine .seq (reads_mark _).atMostOne fun star _ => .seq (reads_propertyName hg) fun name _ => ?_
  refine .seq (Reads.atMostOne (P := Any) (.seq reads_typesOnly fun _ _ =>
    .orElse (reads_mark _).toAny (reads_mark _).toAny)) fun sign _ => ?_
  refine .seq (reads_nextMarkOf _) fun _ _ => .ite (fun _ => ?_) fun _ => ?_
  · refine .seq (reads_signature hg) fun s _ => ?_
    refine .seq (reads_nextMark _) fun _ _ => .ite (fun _ => ?_) fun _ => ?_
    · exact .seq (hg.named .block) fun body _ => hmethod (by simp)
    · refine .seq reads_typesOnly fun _ _ => ?_
      exact .seq (P := Any) (.orElse reads_semicolon.toAny (ReadsOn.one (reads_mark _)).toAny)
        fun e _ => hmember (by simp)
  · refine .seq (reads_typeAfterColon hg).orEmpty fun type _ => ?_
    refine .seq (reads_initializer hg) fun i _ => ?_
    exact .seq reads_semicolon fun e _ => hmember (by simp)

theorem reads_classBody : Reads (classBody g) Piece.IsNamed := by
  refine .node (by decide) (reads_enclosed (Reads.many (Q := Any) ?_).toAny).toAny
  refine .firstOf_cons (reads_mark _).toAny (.firstOf_cons ?_ (.firstOf_cons ?_
    (.firstOf_cons (reads_classMember hg).toAny .firstOf_nil)))
  · refine ReadsOn.toAny (.node (by decide) (.seq (reads_word _) fun w _ => ?_))
    exact .seq (hg.named .block) fun b _ => .pure (by simp) (any _)
  · refine ReadsOn.toAny (.node (by decide) (.seq reads_typesOnly fun _ _ => ?_))
    refine .seq (reads_memberModifier _).many fun modifiers _ => ?_
    refine .seq (reads_indexMember hg) fun m _ => ?_
    exact .seq reads_semicolon fun e _ => .pure (by simp) (any _)

theorem reads_classTail : Reads (classTail g) Any := by
  refine .seq (reads_typeParameters hg).orEmpty fun types _ => .seq (.orEmpty ?_) fun parent _ => ?_
  · refine .seq (reads_word _) fun w _ => .seq (hg.named .chain) fun c _ => ?_
    exact .seq (reads_typeArguments hg).toAny.orEmpty fun arguments _ => .pure (by simp) (any _)
  refine .seq (.orEmpty ?_) fun promises _ => ?_
  · refine .seq reads_typesOnly fun _ _ => .seq (reads_word _) fun w _ => ?_
    exact .seq (Reads.commaList1 (ReadsOn.one (hg.named .type)).toAny) fun ts _ =>
      .pure (by simp) (any _)
  exact .seq (hg.named .classBody) fun body _ => .pure (by simp) (any _)

omit hg in
theorem reads_className : Reads (className g) Any :=
  .seq (reads_notBefore _) fun _ _ => (reads_freeName (by decide)).toAny

theorem reads_classExpression : Reads (classExpression g) Piece.IsNamed := by
  refine .node (by decide) (.seq (reads_decorator hg).many fun decorators _ => ?_)
  refine .seq (reads_word _) fun w _ => .seq reads_className.atMostOne fun name _ => ?_
  exact .seq (reads_classTail hg) fun tail _ => .pure (by simp) (any _)

theorem reads_classDeclaration : Reads (classDeclaration g) Piece.IsDeclaration := by
  refine .seq (reads_decorator hg).many fun decorators hdecorators => ?_
  refine .seq (Reads.atMostOne (P := fun x => x.node.IsToken "abstract") ?_)
    fun isAbstract habstract => ?_
  · refine .seq reads_typesOnly fun _ _ => .seq (reads_word _) fun w hw => ?_
    exact .seq reads_sameLine fun _ _ => .pure (by simp) hw
  refine .seq (reads_word _) fun w hw => .seq reads_className fun name _ => ?_
  refine .seq (reads_classTail hg) fun tail _ => reads_namedBranch (by simp) ?_ ?_
  · split <;> decide
  · refine ⟨decorators ++ isAbstract ++ [w], name, tail, by simp, ?_⟩
    simp only [List.forall_mem_append, List.forall_mem_singleton]
    exact ⟨⟨fun y hy => (hdecorators y hy).role, fun y hy => (habstract y hy).role⟩, hw.role⟩

/-! ### Markup -/

omit hg in
theorem reads_markupName {kind : Kind} (hkind : kind ∉ tellingKinds) :
    Reads (leaf kind markupNameEnd?) (Piece.IsA kind) := by
  refine (reads_leaf (fun s i j h => ?_) hkind).mono fun p hp => hp.isA
  grind [markupNameEnd?, Source.le_skip]

omit hg in
theorem reads_elementName : Reads elementName Any := by
  refine .seq (reads_markupName (by decide)) fun start _ => .seq (.manyPieces ?_) fun more _ => ?_
  · refine .seq (P := Any) (.orElse (reads_mark _).toAny (reads_mark _).toAny) fun d _ => ?_
    exact .seq (reads_markupName (by decide)) fun n _ => .pure (by simp) (any _)
  · exact .pure (by simp) (any _)

theorem reads_braced : Reads (braced g) Piece.IsNamed := by
  refine .node (by decide)
    (reads_enclosed (.orEmpty (ReadsOn.one (P := Piece.IsNamed) ?_).toAny)).toAny
  refine .firstOf_cons ?_ (.firstOf_cons (hg.named .expression) .firstOf_nil)
  refine .node (by decide) (.seq (reads_mark _) fun d _ => ?_)
  exact .seq (hg.named .assignment) fun e _ => .pure (by simp) (any _)

theorem reads_markupAttribute : Reads (markupAttribute g) Piece.IsNamed := by
  refine .orElse (reads_braced hg) (.node (by decide) ?_)
  refine .seq (reads_markupName (by decide)) fun name _ => .seq (.orEmpty ?_) fun more _ => ?_
  · refine .seq (reads_mark _) fun c _ => ?_
    exact .seq (reads_markupName (by decide)) fun n _ => .pure (by simp) (any _)
  refine .seq (.orEmpty ?_) fun value _ => .pure (by simp) (any _)
  refine .seq (reads_mark _) fun e _ => ?_
  refine .seq (P := Any) (.firstOf_cons ?_ (.firstOf_cons (reads_braced hg).toAny
    (.firstOf_cons (hg.named .markup).toAny .firstOf_nil))) fun v _ => .pure (by simp) (any _)
  exact (reads_string fun _ _ _ h => Source.markupStringEnd?_spec h).toAny

omit hg in
theorem reads_markupText : Reads markupText Any := by
  refine (reads_adjacent (fun s i j h => ?_) (by decide)).toAny
  grind

omit hg in
theorem reads_closing : Reads closing Any := by
  refine .seq (reads_bracket _) fun o _ => .seq (reads_bracket _) fun d _ => ?_
  refine .seq reads_elementName.orEmpty fun name _ => ?_
  exact .seq (reads_bracket _) fun c _ => .pure (by simp) (any _)

theorem reads_markup : Reads (markup g) Piece.IsNamed := by
  refine .node (by decide) (.seq (reads_bracket _) fun o _ => .seq (.orEmpty ?_) fun head _ => ?_)
  · refine .seq reads_elementName fun name _ => ?_
    refine .seq (reads_typeArguments hg).toAny.orEmpty fun arguments _ => ?_
    exact .seq (reads_markupAttribute hg).many fun attributes _ => .pure (by simp) (any _)
  refine .seq (Reads.optional? (Q := Any) ?_) fun d _ => ?_
  · exact .seq (reads_require _) fun _ _ => (reads_bracket _).toAny
  cases d with
  | some d => exact .seq (reads_bracket _) fun c _ => .pure (by simp) (any _)
  | none =>
    refine .seq (reads_bracket _) fun c _ => ?_
    refine .seq (Reads.many (Q := Any) ?_) fun inside _ => ?_
    · refine .firstOf_cons reads_markupText (.firstOf_cons (reads_braced hg).toAny
        (.firstOf_cons ?_ .firstOf_nil))
      exact .seq (reads_notBefore _) fun _ _ => (hg.named .markup).toAny
    · exact .seq reads_closing fun e _ => .pure (by simp) (any _)

end BundleGraph.Syntax.Grammar
