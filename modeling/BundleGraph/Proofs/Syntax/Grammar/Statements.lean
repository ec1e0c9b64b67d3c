import BundleGraph.Proofs.Computations
import BundleGraph.Proofs.Syntax.Grammar.Declarations
import BundleGraph.Syntax.Grammar.Statements

/-! # What the rules of statements read

    Of every export statement it is proved what it says (`Says`): which form it has,
    which names stand in it and what it declares. The other statements are followed
    like types and expressions.
-/

namespace BundleGraph.Syntax.Grammar

open Exports

variable {g : Grammar} (hg : g.Reliable)

include hg

/-! ### Imports -/

theorem reads_importAttributes :
    Reads (importAttributes g) fun xs => ∀ x ∈ xs, IsEnding x.node := by
  refine (Reads.emptyOr (Q := fun xs => ∀ x ∈ xs, IsEnding x.node) ?_).mono fun xs hxs => ?_
  · refine .seq (P := fun p => ∃ w ∈ ["from", "with", "assert", ";"], p.node.IsToken w)
      (.orElse ?_ ?_) fun w hw => ?_
    · exact (reads_word _).mono fun p hp => ⟨_, by decide, hp⟩
    · exact (reads_leadWord _).mono fun p hp => ⟨_, by decide, hp⟩
    · refine .seq (reads_object hg) fun o ho => .pure (by simp) ?_
      rw [List.forall_mem_cons, List.forall_mem_singleton]
      obtain ⟨v, hv, hw⟩ := hw
      exact ⟨⟨hw.role, Or.inr (Or.inr ⟨v, hv, hw⟩)⟩, ho.role, Or.inr (Or.inl ho.kind)⟩
  · rcases hxs with rfl | hxs
    · exact nofun
    · exact hxs

theorem reads_fromClause : Reads (fromClause g) fun xs => ∀ x ∈ xs, IsEnding x.node := by
  refine .seq (reads_word _) fun w hw => .seq reads_stringLiteral fun s hs => ?_
  refine .seq (reads_importAttributes hg) fun a ha => .pure (by simp) ?_
  rw [List.forall_mem_cons, List.forall_mem_cons]
  exact ⟨⟨hw.role, Or.inr (Or.inr ⟨_, by decide, hw⟩)⟩, ⟨hs.1.role, Or.inl hs.1.kind⟩, ha⟩

omit hg in
theorem reads_importSpecifier : Reads importSpecifier Any := by
  refine .seq (Reads.atMostOne (P := Any) ?_) fun modifier _ => ?_
  · refine .seq (reads_wordOf _) fun w _ => .seq (reads_looksLike _) fun _ _ => ?_
    refine .seq (reads_nextWord _) fun _ _ => .seq (reads_require _) fun _ _ => ?_
    exact .pure (by simp) (any _)
  refine .seq (P := Any) (.orElse (reads_anyName (by decide)).toAny reads_stringLiteral.toAny)
    fun name _ => .seq (.orEmpty ?_) fun newName _ => .pure (by simp) (any _)
  refine .seq (reads_word _) fun w _ => ?_
  exact .seq reads_identifier fun n _ => .pure (by simp) (any _)

omit hg in
theorem reads_importedNames : Reads importedNames Any := by
  refine .orElse ?_ (reads_enclosed reads_importSpecifier.commaList).toAny
  refine .seq (reads_mark _) fun s _ => .seq (reads_word _) fun w _ => ?_
  exact .seq reads_identifier fun n _ => .pure (by simp) (any _)

omit hg in
theorem reads_importClause : Reads importClause Any := by
  refine .orElse (.seq reads_identifier fun name _ => ?_) reads_importedNames
  refine .seq (.orEmpty ?_) fun more _ => .pure (by simp) (any _)
  refine .seq (reads_mark _) fun c _ => ?_
  exact .seq reads_importedNames fun ns _ => .pure (by simp) (any _)

theorem reads_importStatement : Reads (importStatement g) Piece.IsNamed := by
  refine .node (by decide) (.seq (reads_word _) fun w _ => .seq (P := Any) (.firstOf_cons ?_
    (.firstOf_cons ?_ (.firstOf_cons ?_ (.firstOf_cons ?_ .firstOf_nil)))) fun rest _ => ?_)
  · refine .seq reads_stringLiteral fun s _ => ?_
    exact .seq (reads_importAttributes hg) fun a _ => .pure (by simp) (any _)
  · refine .seq reads_importClause fun c _ => ?_
    exact .seq (reads_fromClause hg) fun f _ => .pure (by simp) (any _)
  · refine .seq (reads_wordOf _) fun t _ => .seq reads_importClause fun c _ => ?_
    exact .seq (reads_fromClause hg) fun f _ => .pure (by simp) (any _)
  · refine .seq reads_typesOnly fun _ _ => .seq (Reads.atMostOne (P := Any) ?_) fun type _ => ?_
    · refine .seq (reads_word _) fun t _ => .seq (reads_notBefore _) fun _ _ => ?_
      exact .pure (by simp) (any _)
    refine .seq reads_identifier fun name _ => .seq (reads_mark _) fun m _ => ?_
    refine .seq (reads_word _) fun r _ => ?_
    exact .seq (reads_enclosed (ReadsOn.one reads_stringLiteral)) fun s _ =>
      .pure (by simp) (any _)
  · exact .seq reads_semicolon fun e _ => .pure (by simp) (any _)

/-! ### Names that are exported -/

/-- A name that plays no part yet. -/
structure IsName (p : Piece) : Prop where
  role : p.node.role = none
  spells : ∃ s, p.node.Spells s

omit hg in
/-- What a name spells does not depend on the part that it plays. -/
theorem spells_as {p : Piece} {s : String} (r : Role) (h : p.node.Spells s) :
    (p.as r).node.Spells s := by
  have htext : (p.as r).node.text = p.node.text := by
    rw [← Node.text_bare, ← p.node.text_bare]
    exact congrArg (fun q => q.node.text) (p.bare_as r)
  cases h with
  | word kind unquoted =>
    rw [← htext] at unquoted ⊢
    exact .word (p.kind_as r ▸ kind) unquoted
  | literal h => exact .literal ⟨(p.kind_as r).trans h.kind, h.quote, htext.trans h.text⟩

omit hg in
theorem reads_exportedName : Reads exportedName IsName := by
  refine .orElse ((reads_anyName (by decide)).mono fun p hp => ⟨hp.isA.role, ?_⟩)
    (reads_stringLiteral.mono fun p hp => ⟨hp.1.role, ?_⟩)
  · obtain ⟨s, i, j, gap, hj, hnode⟩ := hp
    rw [hnode]
    exact ⟨_, .word List.mem_cons_self (Source.head?_of_nameEnd? hj)⟩
  · obtain ⟨q, content, hliteral⟩ := hp.2
    exact ⟨_, .literal hliteral⟩

omit hg in
theorem reads_exportSpecifier :
    Reads exportSpecifier fun p => p.IsA .exportSpecifier ∧ ∃ x, IsSpecifier p.node x := by
  have hparts : Reads exportSpecifier (Piece.IsMadeOf .exportSpecifier fun ps =>
      ∃ (front : List Piece) (name : Piece) (rest : List Piece),
        ps = front ++ name.as .name :: rest ∧ (∀ x ∈ front, x.node.role = none) ∧ IsName name ∧
          (rest = [] ∨ ∃ (w n : Piece), rest = [w, n.as .newName] ∧ w.node.role = none ∧
            IsName n)) := by
    refine ReadsOn.nodeIs (by decide) (.seq (Reads.atMostOne (P := fun x => x.node.role = none) ?_)
      fun modifier hmodifier => .seq reads_exportedName fun name hname => ?_)
    · refine .seq reads_typesOnly fun _ _ => .seq (reads_wordOf _) fun w hw => ?_
      obtain ⟨_, _, hw⟩ := hw
      refine .seq (reads_nextWord _) fun _ _ => .ite (fun _ => ?_) fun _ => ?_
      · refine .seq (reads_looksLike _) fun _ _ => .seq (reads_require _) fun _ _ => ?_
        exact .pure (by simp) hw.role
      · refine .seq (reads_looksLike _) fun _ _ => .seq (reads_require _) fun _ _ => ?_
        exact .pure (by simp) hw.role
    · refine .seq (Reads.emptyOr (Q := fun rest => ∃ (w n : Piece), rest = [w, n.as .newName] ∧
        w.node.role = none ∧ IsName n) ?_) fun newName hnewName => ?_
      · refine .seq (reads_word _) fun w hw => .seq reads_exportedName fun n hn => ?_
        exact .pure (by simp) ⟨w, n, rfl, hw.role, hn⟩
      · exact .pure (by simp) ⟨modifier, name, newName, rfl, hmodifier, hname, hnewName⟩
  refine hparts.mono fun p hp => ⟨hp.isA, ?_⟩
  obtain ⟨ps, rfl, hsound, front, name, rest, rfl, hfront, hname, hrest⟩ := hp
  obtain ⟨s, hs⟩ := hname.spells
  have hchild : (Piece.branch .exportSpecifier (front ++ name.as .name :: rest)).node.child? .name =
      some (name.as .name).node :=
    Piece.child?_branch_of_first hsound (fun y hy => by rw [hfront y hy]; nofun) (name.role_as _)
  rcases hrest with rfl | ⟨w, n, rfl, hw, hn⟩
  · refine ⟨_, .plain Piece.kind_branch hchild (spells_as _ hs) ?_⟩
    rw [Piece.child?_branch hsound, List.find?_eq_none, List.forall_mem_map,
      List.forall_mem_append, List.forall_mem_singleton]
    exact ⟨fun y hy => by simp [hfront y hy], by simp⟩
  · obtain ⟨s', hs'⟩ := hn.spells
    have hnew : (Piece.branch .exportSpecifier
        (front ++ name.as .name :: [w, n.as .newName])).node.child? .newName =
          some (n.as .newName).node := by
      have hassoc : front ++ name.as .name :: [w, n.as .newName] =
          (front ++ [name.as .name, w]) ++ n.as .newName :: [] := by simp
      rw [hassoc] at hsound ⊢
      refine Piece.child?_branch_of_first hsound ?_ (n.role_as _)
      rw [List.forall_mem_append, List.forall_mem_cons, List.forall_mem_singleton]
      exact ⟨fun y hy => by rw [hfront y hy]; nofun, by simp, by rw [hw]; nofun⟩
    exact ⟨_, .renamed Piece.kind_branch hchild (spells_as _ hs) hnew (spells_as _ hs')⟩

omit hg in
theorem reads_exportClause : Reads exportClause fun p => ∃ xs, IsClause p.node xs := by
  have hitems : Reads (one exportSpecifier) fun xs => ∀ x ∈ xs,
      x.IsA .exportSpecifier ∧ ∃ y, IsSpecifier x.node y :=
    ReadsOn.one_forall reads_exportSpecifier
  refine (ReadsOn.nodeIs (by decide) (reads_enclosed (reads_commaList hitems))).mono
    fun p hp => ?_
  obtain ⟨ps, hps, o, inside, c, rfl, ho, hinside, hc⟩ := hp.constituents
  -- brackets and commas are no specifiers
  have hspecifiers : ∀ x ∈ p.node.constituents.filter fun c => c.kind = .exportSpecifier,
      ∃ y, IsSpecifier x y := by
    intro x hx
    rw [List.mem_filter, decide_eq_true_iff, hps] at hx
    obtain ⟨hmem, hkind⟩ := hx
    have htoken : ∀ {y : Piece} {w : String}, y.node.IsToken w → y.node = x → False := by
      rintro y w hy rfl
      rw [hy.kind] at hkind
      cases hkind
    obtain ⟨y, hy, hyx⟩ := List.mem_map.1 hmem
    simp only [List.cons_append, List.mem_cons, List.mem_append, List.not_mem_nil, or_false] at hy
    rcases hy with rfl | hy | rfl
    · exact (htoken ho hyx).elim
    · rcases hinside y hy with hcomma | hspecifier
      · exact (htoken hcomma hyx).elim
      · exact hyx ▸ hspecifier.2
    · exact (htoken hc hyx).elim
  obtain ⟨xs, hxs⟩ := exists_forall₂ hspecifiers
  exact ⟨xs, hp.isA.role, hp.isA.kind, hxs⟩

/-! ### Exports -/

/-- What stands behind the word `export`. -/
def MeansSomething (ps : List Piece) : Prop := ∃ e, Means (ps.map Piece.node) e

/-- What comes from a module and which names, or all of them: the middle of an export. -/
def IsMiddle (c : Node) : Prop :=
  ∀ types ending : List Node, (∀ t ∈ types, t.IsToken "type") → (∀ t ∈ ending, IsEnding t) →
    ∃ e, Means (types ++ c :: ending) e

omit hg in
theorem reads_exportedAll : Reads exportedAll fun xs => ∃ x, xs = [x] ∧ IsMiddle x.node := by
  refine .orElse ?_ ?_
  · have hinside : Reads (node .namespaceExport do
        let s ← mark "*"
        let w ← word "as"
        let n ← exportedName
        pure [s, w, n]) (Piece.IsMadeOf .namespaceExport fun ps => ∃ s w n : Piece,
          ps = [s, w, n] ∧ s.node.IsToken "*" ∧ w.node.IsToken "as" ∧ IsName n) := by
      refine ReadsOn.nodeIs (by decide) (.seq (reads_mark _) fun s hs => ?_)
      refine .seq (reads_word _) fun w hw => .seq reads_exportedName fun n hn => ?_
      exact .pure (by simp) ⟨s, w, n, rfl, hs, hw, hn⟩
    refine (ReadsOn.one hinside).mono fun xs hxs => ?_
    obtain ⟨x, rfl, hx⟩ := hxs
    refine ⟨x, rfl, fun types ending htypes hending => ?_⟩
    obtain ⟨ps, hps, s, w, n, rfl, hs, hw, hn⟩ := hx.constituents
    obtain ⟨name, hname⟩ := hn.spells
    exact ⟨_, .allAs htypes hx.isA.kind hx.isA.role hps hs hw hname hending⟩
  · refine (ReadsOn.one (reads_mark _)).mono fun xs hxs => ?_
    obtain ⟨x, rfl, hx⟩ := hxs
    exact ⟨x, rfl, fun types ending htypes hending => ⟨_, .all htypes hx hending⟩⟩

omit hg in
theorem isMiddle_of_isClause {c : Node} {xs : List Specifier} (h : IsClause c xs) : IsMiddle c :=
  fun _ _ htypes hending => ⟨_, .clause htypes h hending⟩

omit hg in
theorem reads_end : Reads semicolon fun xs => ∀ x ∈ xs, IsEnding x.node :=
  reads_semicolon.mono fun _ hxs x hx =>
    ⟨(hxs x hx).role, Or.inr (Or.inr ⟨_, by decide, hxs x hx⟩)⟩

theorem reads_maybeFrom : Reads (orEmpty (fromClause g)) fun xs => ∀ x ∈ xs, IsEnding x.node := by
  refine (reads_fromClause hg).emptyOr.mono fun xs hxs => ?_
  rcases hxs with rfl | hxs
  · exact nofun
  · exact hxs

omit hg in
theorem forall_isEnding {f e : List Piece} (hf : ∀ x ∈ f, IsEnding x.node)
    (he : ∀ x ∈ e, IsEnding x.node) : ∀ c ∈ (f ++ e).map Piece.node, IsEnding c :=
  List.forall_mem_map.2 (List.forall_mem_append.2 ⟨hf, he⟩)

theorem reads_defaultExport : Reads (defaultExport g) MeansSomething := by
  refine .seq (reads_word _) fun w hw => .seq (P := fun rest => MeansSomething (w :: rest))
    (.orElse ?_ ?_) fun rest hrest => .pure (by simp) hrest
  · refine .seq hg.declaration fun d hd => .pure (by simp) ?_
    obtain ⟨x, hx⟩ := hd.declares
    exact ⟨_, .defaultDeclaration hw (d.role_as _) (declares_as _ hx)⟩
  · refine .seq (hg.named .expression) fun v hv => .seq reads_end fun e he => .pure (by simp) ?_
    exact ⟨_, .defaultValue hw hv.role hv.named (List.forall_mem_map.2 he)⟩

theorem reads_typedExport : Reads (typedExport g) MeansSomething := by
  refine .seq reads_typesOnly fun _ _ => .firstOf_cons ?_ (.firstOf_cons ?_ (.firstOf_cons ?_
    (.firstOf_cons ?_ .firstOf_nil)))
  · refine .seq (reads_word _) fun t ht => ?_
    refine .seq (P := fun xs => ∃ x : Piece, xs = [x] ∧ IsMiddle x.node)
      (.orElse ?_ reads_exportedAll) fun c hc => ?_
    · refine (ReadsOn.one reads_exportClause).mono fun xs hxs => ?_
      obtain ⟨x, rfl, _, hx⟩ := hxs
      exact ⟨x, rfl, isMiddle_of_isClause hx⟩
    · refine .seq (reads_maybeFrom hg) fun f hf => .seq reads_end fun e he => .pure (by simp) ?_
      obtain ⟨x, rfl, hx⟩ := hc
      exact hx [t.node] _ (List.forall_mem_singleton.2 ht) (forall_isEnding hf he)
  · refine (ReadsOn.one reads_importAlias).mono fun xs hxs => ?_
    obtain ⟨x, rfl, hx⟩ := hxs
    exact ⟨_, .memberAlias hx.isA.kind hx.isA.role⟩
  · refine .seq (reads_mark _) fun m hm => .seq (hg.named .expression) fun v hv => ?_
    refine .seq reads_end fun e he => .pure (by simp) ?_
    exact ⟨_, .assignment hm hv.role (List.forall_mem_map.2 he)⟩
  · refine .seq (reads_word _) fun a ha => .seq (reads_word _) fun w hw => ?_
    refine .seq reads_identifier fun n hn => .seq reads_end fun e he => .pure (by simp) ?_
    exact ⟨_, .globalName ha hw hn.isA.kind hn.isA.role (List.forall_mem_map.2 he)⟩

theorem reads_exportStatement : Reads (exportStatement g) Piece.IsNamed := by
  refine (ReadsOn.nodeOf (Q := fun ps => ∃ (front : List Piece) (w : Piece) (rest : List Piece),
    ps = front ++ w :: rest ∧ (∀ x ∈ front, x.IsA .decorator) ∧ w.node.IsToken "export" ∧
      MeansSomething rest) ?_ (by decide) ?_).mono fun p hp => hp.isA.isNamed (by decide)
  · refine .seq (reads_decorator hg).many fun decorators hdecorators => ?_
    refine .seq (reads_word _) fun w hw => .seq (P := MeansSomething) (.firstOf_cons ?_
      (.firstOf_cons ?_ (.firstOf_cons (reads_typedExport hg) (.firstOf_cons
      (reads_defaultExport hg) (.firstOf_cons ?_ .firstOf_nil))))) fun rest hrest =>
        .pure (by simp) ⟨decorators, w, rest, rfl, hdecorators, hw, hrest⟩
    · refine .seq reads_exportedAll fun a ha => .seq (reads_fromClause hg) fun f hf => ?_
      refine .seq reads_end fun e he => .pure (by simp) ?_
      obtain ⟨x, rfl, hx⟩ := ha
      exact hx [] _ nofun (forall_isEnding hf he)
    · refine .seq reads_exportClause fun c hc => .seq (reads_maybeFrom hg) fun f hf => ?_
      refine .seq reads_end fun e he => .pure (by simp) ?_
      obtain ⟨xs, hxs⟩ := hc
      exact isMiddle_of_isClause hxs [] _ nofun (forall_isEnding hf he)
    · refine .seq hg.declaration fun d hd => .pure (by simp) ?_
      obtain ⟨x, hx⟩ := hd.declares
      exact ⟨_, .declaration (d.role_as _) (declares_as _ hx)⟩
  · rintro ps hsound ⟨front, w, rest, rfl, hfront, hw, e, he⟩
    refine .of_kind_eq Piece.kind_branch nofun nofun nofun nofun fun _ =>
      ⟨e, rest.map Piece.node, ⟨front.map Piece.node, w.node, ?_, hw, ?_⟩, he⟩
    · rw [Piece.constituents_branch hsound, List.map_append, List.map_cons]
    · exact List.forall_mem_map.2 fun x hx => ⟨(hfront x hx).kind, (hfront x hx).role⟩

/-! ### Control -/

theorem reads_loopHead : Reads (loopHead g) Any := by
  refine .firstOf_cons ?_ (.firstOf_cons ?_ (.firstOf_cons ?_ .firstOf_nil))
  · refine .seq (reads_wordOf _) fun w _ => .seq (hg.named .pattern) fun p _ => ?_
    refine .seq (reads_typeAfterColon hg).orEmpty fun type _ => ?_
    refine .seq (reads_wordOf _) fun link _ => ?_
    exact .seq (hg.named .expression) fun e _ => .pure (by simp) (any _)
  · refine .seq (hg.named .chain) fun p _ => .afterPattern _ ?_
    refine .seq (reads_wordOf _) fun link _ => ?_
    exact .seq (hg.named .expression) fun e _ => .pure (by simp) (any _)
  · refine .seq (P := Any) (.firstOf_cons (ReadsOn.one (reads_mark _)).toAny (.firstOf_cons ?_
      (.firstOf_cons ?_ .firstOf_nil))) fun first _ => ?_
    · exact .seq (reads_variableDeclaration hg) fun d _ => .pure (by simp) (any _)
    · refine .seq (hg.named .expression) fun e _ => ?_
      exact .seq (reads_mark _) fun s _ => .pure (by simp) (any _)
    · refine .seq (hg.named .expression).atMostOne fun test _ => .seq (reads_mark _) fun s _ => ?_
      exact .seq (hg.named .expression).atMostOne fun next _ => .pure (by simp) (any _)

theorem reads_forStatement : Reads (forStatement g) Piece.IsNamed := by
  refine .node (by decide) (.seq (reads_word _) fun w _ => ?_)
  refine .seq (reads_word _).atMostOne fun a _ => ?_
  refine .seq (reads_enclosed (reads_loopHead hg)) fun head _ => ?_
  exact .seq (hg.named .statement) fun body _ => .pure (by simp) (any _)

theorem reads_statements : Reads (statements g) Any := by
  refine (Reads.many (Q := Any) (.orElse ?_ (hg.named .statement).toAny)).toAny
  exact (reads_leaf Source.forward_htmlCommentEnd? (by decide)).toAny

theorem reads_cases : Reads (cases g) Any := by
  refine (Reads.many (.node (by decide) (.seq (P := Any) (.orElse ?_ (ReadsOn.one
    (reads_word _)).toAny) fun head _ => ?_))).toAny
  · refine .seq (reads_word _) fun w _ => ?_
    exact .seq (hg.named .expression) fun e _ => .pure (by simp) (any _)
  · refine .seq (reads_mark _) fun c _ => ?_
    exact .seq (reads_statements hg) fun body _ => .pure (by simp) (any _)

theorem reads_tryStatement : Reads (tryStatement g) Piece.IsNamed := by
  refine .node (by decide) (.seq (reads_word _) fun w _ => .seq (hg.named .block) fun body _ => ?_)
  refine .seq (Reads.atMostOne (.node (by decide) ?_)) fun handler _ => ?_
  · refine .seq (reads_word _) fun w _ => ?_
    refine .seq (.orEmpty (reads_enclosed (Q := Any) ?_).toAny) fun parameter _ => ?_
    · refine .seq (hg.named .pattern) fun p _ => ?_
      exact .seq (reads_typeAfterColon hg).orEmpty fun type _ => .pure (by simp) (any _)
    · exact .seq (hg.named .block) fun b _ => .pure (by simp) (any _)
  refine .seq (Reads.atMostOne (.node (by decide) ?_)) fun finalizer _ => .pure (by simp) (any _)
  refine .seq (reads_word _) fun w _ => ?_
  exact .seq (hg.named .block) fun b _ => .pure (by simp) (any _)

theorem reads_control : Reads (control g) Piece.IsNamed := by
  refine .firstOf_cons ?_ (.firstOf_cons (reads_forStatement hg) (.firstOf_cons ?_ (.firstOf_cons ?_
    (.firstOf_cons ?_ (.firstOf_cons (reads_tryStatement hg) (.firstOf_cons ?_ (.firstOf_cons ?_
    (.firstOf_cons ?_ (.firstOf_cons ?_ .firstOf_nil)))))))))
  · refine .node (by decide) (.seq (reads_word _) fun w _ => ?_)
    refine .seq (reads_parenthesized hg) fun c _ => ?_
    refine .seq (hg.named .statement) fun yes _ => .seq (.orEmpty ?_) fun no _ =>
      .pure (by simp) (any _)
    refine .seq (reads_word _) fun w _ => ?_
    exact .seq (hg.named .statement) fun s _ => .pure (by simp) (any _)
  · refine .node (by decide) (.seq (P := Any) (.orElse (reads_word _).toAny (reads_word _).toAny)
      fun w _ => .seq (reads_parenthesized hg) fun c _ => ?_)
    exact .seq (hg.named .statement) fun body _ => .pure (by simp) (any _)
  · refine .node (by decide) (.seq (reads_word _) fun w _ => ?_)
    refine .seq (hg.named .statement) fun body _ => ?_
    refine .seq (reads_word _) fun u _ => .seq (reads_parenthesized hg) fun c _ => ?_
    exact .seq (reads_mark _).atMostOne fun e _ => .pure (by simp) (any _)
  · refine .node (by decide) (.seq (reads_word _) fun w _ => ?_)
    refine .seq (reads_parenthesized hg) fun c _ => ?_
    exact .seq (reads_enclosed (reads_cases hg)) fun body _ => .pure (by simp) (any _)
  · refine .node (by decide) (.seq (reads_word _) fun w _ => .seq (.orEmpty ?_) fun value _ => ?_)
    · exact .seq reads_sameLine fun _ _ => (ReadsOn.one (hg.named .expression)).toAny
    · exact .seq reads_semicolon fun e _ => .pure (by simp) (any _)
  · refine .node (by decide) (.seq (reads_word _) fun w _ => ?_)
    refine .seq (hg.named .expression) fun value _ => ?_
    exact .seq reads_semicolon fun e _ => .pure (by simp) (any _)
  · refine .node (by decide) (.seq (reads_wordOf _) fun w _ => ?_)
    refine .seq (.orEmpty ?_) fun target _ => ?_
    · exact .seq reads_sameLine fun _ _ => (ReadsOn.one (reads_freeName (by decide))).toAny
    · exact .seq reads_semicolon fun e _ => .pure (by simp) (any _)
  · refine .node (by decide) (.seq (reads_word _) fun w _ => ?_)
    exact .seq reads_semicolon fun e _ => .pure (by simp) (any _)

theorem reads_block : Reads (block g) (Piece.IsA .block) :=
  (ReadsOn.nodeIs (by decide) (reads_enclosed (reads_statements hg))).mono fun _ hp => hp.isA

theorem reads_statement : Reads (statement g) Piece.IsNamed := by
  refine .firstOf_cons (.node (by decide) (ReadsOn.one (reads_mark _)).toAny) (.firstOf_cons ?_
    (.firstOf_cons (reads_exportStatement hg) (.firstOf_cons (reads_importStatement hg)
    (.firstOf_cons (hg.named .declaration) (.firstOf_cons (reads_control hg) (.firstOf_cons ?_
    (.firstOf_cons ?_ .firstOf_nil)))))))
  · exact (reads_block hg).mono fun p hp => hp.isNamed (by decide)
  · refine .node (by decide) (.seq (reads_freeName (by decide)) fun l _ => ?_)
    refine .seq (reads_mark _) fun c _ => ?_
    exact .seq (hg.named .statement) fun s _ => .pure (by simp) (any _)
  · refine .node (by decide) (.seq (hg.named .expression) fun e _ => ?_)
    exact .seq reads_semicolon fun s _ => .pure (by simp) (any _)

end BundleGraph.Syntax.Grammar
