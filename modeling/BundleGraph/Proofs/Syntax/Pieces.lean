import BundleGraph.Proofs.Exports.Forms
import BundleGraph.Syntax.Grammar.Basic
import Mathlib.Data.List.Find

/-! # Pieces in a row

    Parsers put trees together from pieces: a node with the comments before it.
    `Row` says that pieces stand in a row between two places of a source: put
    together, their texts are what stands there, so nothing is lost and nothing
    is there twice; and each piece is sound.

    A piece is sound if all nodes in it are regular. This is what the grammar says
    of a single node: that a comment is a leaf that plays no part, that a string
    stands between quotation marks, that an export statement has one of its forms.

    What part a node plays in its parent is decided when the parent is made. So
    none of this depends on it (`Row.congr`).
-/

namespace BundleGraph.Syntax

open Exports

/-! ### Regular nodes -/

/-- What a template is made of. -/
def templateKinds : List Kind := [.token, .templateText, .templateEscape, .templateHole]

/-- What the grammar says of a node by itself. -/
structure Node.Regular (n : Node) : Prop where
  /-- Comments are leaves that play no part. -/
  comment : n.kind = .comment → n.isComment = true
  /-- Strings stand between quotation marks. -/
  string : n.kind = .string → ∃ q content, n.IsLiteral q content
  /-- What is called gets an argument list or a template. -/
  call : n.kind = .call → ∀ c, n.child? .arguments = some c →
    c.kind = .arguments ∨ c.kind = .template
  /-- Templates are made of text and holes. -/
  template : n.kind = .template → ∀ c ∈ n.constituents, c.kind ∈ templateKinds
  /-- Export statements have one of the forms that there are. -/
  exports : n.kind = .exportStatement → ∃ e, Says n e

/-- What is relied on of a source with its tree, whatever parser it comes from. -/
structure Parsed.Faithful (p : Parsed) : Prop where
  /-- The words of the tree and the gaps between them are those of the text. -/
  source_infix : p.tree.source.toList <:+: p.text.toList
  regular : ∀ n ∈ p.tree.visit, n.Regular

/-- Kinds of nodes of which the grammar says something. -/
def tellingKinds : List Kind := [.comment, .string, .call, .template, .exportStatement]

theorem Node.regular_of_kind {n : Node} (h : n.kind ∉ tellingKinds) : n.Regular := by
  simp only [tellingKinds, List.mem_cons, List.not_mem_nil, or_false, not_or] at h
  obtain ⟨hcomment, hstring, hcall, htemplate, hexports⟩ := h
  exact ⟨fun hk => absurd hk hcomment, fun hk => absurd hk hstring, fun hk => absurd hk hcall,
    fun hk => absurd hk htemplate, fun hk => absurd hk hexports⟩

/-- What there is to show for a node whose kind is known. -/
theorem Node.Regular.of_kind_eq {n : Node} {k : Kind} (hk : n.kind = k)
    (comment : k = .comment → n.isComment = true)
    (string : k = .string → ∃ q content, n.IsLiteral q content)
    (call : k = .call → ∀ c, n.child? .arguments = some c →
      c.kind = .arguments ∨ c.kind = .template)
    (template : k = .template → ∀ c ∈ n.constituents, c.kind ∈ templateKinds)
    (exports : k = .exportStatement → ∃ e, Says n e) : n.Regular :=
  ⟨hk ▸ comment, hk ▸ string, hk ▸ call, hk ▸ template, hk ▸ exports⟩

theorem Node.regular_of_isComment {n : Node} (h : n.isComment = true) : n.Regular := by
  have hkind := (isComment_spec h).1
  refine ⟨fun _ => h, ?_, ?_, ?_, ?_⟩ <;> intro hk <;> rw [hkind] at hk <;> cases hk

/-! ### Parts do not matter -/

/-- The node without the part that it plays. -/
def Node.bare : Node → Node
  | leaf _ k g t => leaf none k g t
  | branch _ k cs => branch none k cs

/-- The piece without the part that its node plays. -/
def Piece.bare (p : Piece) : Piece := { p with node := p.node.bare }

namespace Node

@[simp] theorem kind_bare (n : Node) : n.bare.kind = n.kind := by cases n <;> rfl

@[simp] theorem children_bare (n : Node) : n.bare.children = n.children := by cases n <;> rfl

@[simp] theorem source_bare (n : Node) : n.bare.source = n.source := by
  cases n <;> rw [bare, source, source, textFrom, textFrom]

@[simp] theorem text_bare (n : Node) : n.bare.text = n.text := by
  cases n <;> rw [bare, text, text, textFrom, textFrom]

@[simp] theorem child?_bare (n : Node) (r : Role) : n.bare.child? r = n.child? r := by
  rw [child?, child?, children_bare]

@[simp] theorem constituents_bare (n : Node) : n.bare.constituents = n.constituents := by
  rw [constituents, constituents, children_bare]

theorem isLiteral_bare_iff {n : Node} {q : Char} {content : List Char} :
    n.bare.IsLiteral q content ↔ n.IsLiteral q content :=
  ⟨fun h => ⟨n.kind_bare.symm.trans h.kind, h.quote, n.text_bare.symm.trans h.text⟩,
    fun h => ⟨n.kind_bare.trans h.kind, h.quote, n.text_bare.trans h.text⟩⟩

theorem says_bare_iff {n : Node} {e : Export} : Says n.bare e ↔ Says n e := by
  unfold Says Behind
  rw [constituents_bare]

theorem regular_bare_iff {n : Node} (h : n.kind ≠ .comment) : n.bare.Regular ↔ n.Regular := by
  constructor
  · rintro ⟨-, hstring, hcall, htemplate, hexports⟩
    simp only [kind_bare, isLiteral_bare_iff, child?_bare, constituents_bare, says_bare_iff]
      at hstring hcall htemplate hexports
    exact ⟨fun hk => absurd hk h, hstring, hcall, htemplate, hexports⟩
  · rintro ⟨-, hstring, hcall, htemplate, hexports⟩
    refine ⟨fun hk => absurd (n.kind_bare ▸ hk) h, ?_, ?_, ?_, ?_⟩ <;>
      simp only [kind_bare, isLiteral_bare_iff, child?_bare, constituents_bare, says_bare_iff]
    exacts [hstring, hcall, htemplate, hexports]

end Node

@[simp] theorem Piece.bare_as (r : Role) (p : Piece) : (p.as r).bare = p.bare := by
  cases p with
  | mk before node => cases node <;> rfl

@[simp] theorem Piece.role_as (r : Role) (p : Piece) : (p.as r).node.role = some r := by
  cases p with
  | mk before node => cases node <;> rfl

@[simp] theorem Piece.kind_as (r : Role) (p : Piece) : (p.as r).node.kind = p.node.kind := by
  rw [← Node.kind_bare, ← p.node.kind_bare]
  exact congrArg (fun q => q.node.kind) (p.bare_as r)

/-! ### Sound pieces -/

/-- Comments stand before a piece, its node is none, and all nodes in it are regular. -/
structure Piece.Sound (p : Piece) : Prop where
  before : ∀ c ∈ p.before, c.isComment = true
  node : p.node.kind ≠ .comment
  regular : ∀ x ∈ p.node.visit, x.Regular

namespace Piece

theorem sound_bare_iff {p : Piece} : p.bare.Sound ↔ p.Sound := by
  have hvisit : p.node.kind ≠ .comment →
      ((∀ x ∈ p.node.bare.visit, x.Regular) ↔ ∀ x ∈ p.node.visit, x.Regular) := by
    intro h
    rw [Node.visit_eq, Node.visit_eq, Node.children_bare, List.forall_mem_cons,
      List.forall_mem_cons, Node.regular_bare_iff h]
  constructor
  · rintro ⟨hbefore, hnode, hregular⟩
    rw [bare, Node.kind_bare] at hnode
    exact ⟨hbefore, hnode, (hvisit hnode).1 hregular⟩
  · rintro ⟨hbefore, hnode, hregular⟩
    exact ⟨hbefore, p.node.kind_bare.trans_ne hnode, (hvisit hnode).2 hregular⟩

theorem Sound.regular_of_mem_nodes {p : Piece} (h : p.Sound) {c x : Node} (hc : c ∈ p.nodes)
    (hx : x ∈ c.visit) : x.Regular := by
  rcases List.mem_append.1 hc with hc | hc
  · have hcomment := h.before c hc
    rw [Node.visit_eq, (Node.isComment_spec hcomment).2.2.1, List.flatMap_nil] at hx
    rw [List.mem_singleton.1 hx]
    exact Node.regular_of_isComment hcomment
  · rw [List.mem_singleton.1 hc] at hx
    exact h.regular x hx

/-- A leaf with its comments is sound if it is regular. -/
theorem sound_leaf {comments : List Node} {k : Kind} {gap text : String}
    (hcomments : ∀ c ∈ comments, c.isComment = true) (hkind : k ≠ .comment)
    (h : (Node.leaf none k gap text).Regular) :
    (Piece.mk comments (.leaf none k gap text)).Sound := by
  refine ⟨hcomments, hkind, fun x hx => ?_⟩
  rw [Node.visit_eq] at hx
  rw [List.mem_singleton.1 hx]
  exact h

end Piece

/-! ### Nodes made of pieces -/

/-- Among the nodes of sound pieces, those that are no comments are the nodes of the pieces. -/
theorem filter_nodes {ps : List Piece} (h : ∀ p ∈ ps, p.Sound) :
    (ps.flatMap Piece.nodes).filter (fun c => c.kind ≠ .comment) = ps.map Piece.node := by
  induction ps with
  | nil => rfl
  | cons p ps ih =>
    rw [List.forall_mem_cons] at h
    have hbefore : p.before.filter (fun c => c.kind ≠ .comment) = [] := by
      rw [List.filter_eq_nil_iff]
      intro c hc
      simp [(Node.isComment_spec (h.1.before c hc)).1]
    have hnode : [p.node].filter (fun c => c.kind ≠ .comment) = [p.node] := by
      simp [h.1.node]
    rw [List.flatMap_cons, List.filter_append, ih h.2, Piece.nodes, List.filter_append, hbefore,
      hnode]
    rfl

/-- The nodes of a row of pieces without the comments before the first one. -/
def innerNodes : List Piece → List Node
  | [] => []
  | p :: ps => p.node :: ps.flatMap Piece.nodes

/-- A child that plays a part is no comment. -/
theorem Node.child?_eq {n : Node} (h : ∀ c ∈ n.children, c.kind = .comment → c.isComment = true)
    (r : Role) : n.child? r = n.constituents.find? fun c => c.role = some r := by
  rw [child?, constituents, List.find?_filter]
  refine List.find?_congr fun c hc => ?_
  by_cases hk : c.kind = .comment
  · simp [hk, (isComment_spec (h c hc hk)).2.1]
  · simp [hk]

namespace Piece

variable {kind : Kind} {ps : List Piece}

theorem node_branch (kind : Kind) (ps : List Piece) :
    (branch kind ps).node = .branch none kind (innerNodes ps) := by
  cases ps <;> rfl

theorem before_branch (kind : Kind) (ps : List Piece) :
    (branch kind ps).before ++ innerNodes ps = ps.flatMap nodes := by
  cases ps with
  | nil => rfl
  | cons p ps =>
    show p.before ++ p.node :: ps.flatMap nodes = _
    rw [List.flatMap_cons, nodes, List.append_assoc]
    rfl

@[simp] theorem kind_branch : (branch kind ps).node.kind = kind := by
  rw [node_branch]
  rfl

@[simp] theorem role_branch : (branch kind ps).node.role = none := by
  rw [node_branch]
  rfl

/-- Pieces as one node have the same text. -/
theorem textOfAll_branch (kind : Kind) (ps : List Piece) :
    Node.textOfAll false (branch kind ps).nodes = Node.textOfAll false (ps.flatMap nodes) := by
  rw [nodes, node_branch, ← before_branch kind, Node.textOfAll_append, Node.textOfAll_append,
    Node.textOfAll_cons, Node.source_branch, Node.textOfAll, String.append_empty]

theorem constituents_branch (h : ∀ p ∈ ps, p.Sound) :
    (branch kind ps).node.constituents = ps.map node := by
  rw [node_branch]
  cases ps with
  | nil => rfl
  | cons p ps =>
    rw [List.forall_mem_cons] at h
    have hnode : [p.node].filter (fun c => c.kind ≠ .comment) = [p.node] := by
      simp [h.1.node]
    show ([p.node] ++ ps.flatMap nodes).filter _ = _
    rw [List.filter_append, filter_nodes h.2, hnode]
    rfl

theorem exists_of_mem_children_branch {c : Node} (h : c ∈ (branch kind ps).node.children) :
    ∃ p ∈ ps, c ∈ p.nodes := by
  rw [node_branch] at h
  refine List.mem_flatMap.1 ?_
  rw [← before_branch kind ps]
  exact List.mem_append_right _ h

theorem child?_branch (h : ∀ p ∈ ps, p.Sound) (r : Role) :
    (branch kind ps).node.child? r = (ps.map node).find? fun c => c.role = some r := by
  rw [Node.child?_eq ?_, constituents_branch h]
  intro c hc hk
  obtain ⟨p, hp, hcp⟩ := exists_of_mem_children_branch hc
  exact ((h p hp).regular_of_mem_nodes hcp c.mem_visit_self).comment hk

/-- The first piece in a part is the child in this part. -/
theorem child?_branch_of_first {front rest : List Piece} {x : Piece} {r : Role}
    (h : ∀ p ∈ front ++ x :: rest, p.Sound) (hfront : ∀ p ∈ front, p.node.role ≠ some r)
    (hx : x.node.role = some r) :
    (branch kind (front ++ x :: rest)).node.child? r = some x.node := by
  have hnone : (front.map node).find? (fun c => c.role = some r) = none := by
    rw [List.find?_eq_none, List.forall_mem_map]
    simpa using hfront
  rw [child?_branch h, List.map_append, List.find?_append, hnone, Option.none_or, List.map_cons,
    List.find?_cons_of_pos (by simpa using hx)]

/-- Sound pieces make a sound piece if their node is regular. -/
theorem Sound.branch (h : ∀ p ∈ ps, p.Sound) (hkind : kind ≠ .comment)
    (hregular : (branch kind ps).node.Regular) : (Piece.branch kind ps).Sound := by
  refine ⟨fun c hc => ?_, by rwa [kind_branch], fun x hx => ?_⟩
  · cases ps with
    | nil => cases hc
    | cons p ps => exact (h p List.mem_cons_self).before c hc
  · rw [Node.visit_eq] at hx
    rcases List.mem_cons.1 hx with rfl | hx
    · exact hregular
    · obtain ⟨c, hc, hx⟩ := List.mem_flatMap.1 hx
      obtain ⟨p, hp, hcp⟩ := exists_of_mem_children_branch hc
      exact (h p hp).regular_of_mem_nodes hcp hx

end Piece

/-! ### Rows -/

/-- The pieces stand in a row between two places. -/
structure Row (s : Source) (i : Nat) (ps : List Piece) (j : Nat) : Prop where
  le : i ≤ j
  /-- Nothing is lost, and nothing is there twice. -/
  text : Node.textOfAll false (ps.flatMap Piece.nodes) = s.slice i j
  sound : ∀ p ∈ ps, p.Sound

namespace Row

variable {s : Source} {i j k : Nat} {ps qs : List Piece}

theorem nil (s : Source) (i : Nat) : Row s i [] i :=
  ⟨Nat.le_refl i, (s.slice_self i).symm, nofun⟩

theorem append (hp : Row s i ps k) (hq : Row s k qs j) : Row s i (ps ++ qs) j where
  le := Nat.le_trans hp.le hq.le
  text := by
    rw [List.flatMap_append, Node.textOfAll_append, hp.text, hq.text,
      Source.slice_append hp.le hq.le]
  sound := List.forall_mem_append.2 ⟨hp.sound, hq.sound⟩

/-- A row does not depend on the parts that its nodes play. -/
theorem congr (h : ps.map Piece.bare = qs.map Piece.bare) (hp : Row s i ps j) : Row s i qs j := by
  have htext : ∀ xs : List Piece, Node.textOfAll false ((xs.map Piece.bare).flatMap Piece.nodes) =
      Node.textOfAll false (xs.flatMap Piece.nodes) := by
    intro xs
    induction xs with
    | nil => rfl
    | cons x xs ih =>
      rw [List.map_cons, List.flatMap_cons, List.flatMap_cons, Node.textOfAll_append,
        Node.textOfAll_append, ih, Piece.nodes, Piece.nodes, Node.textOfAll_append,
        Node.textOfAll_append, Node.textOfAll_cons, Node.textOfAll_cons, Piece.bare,
        Node.source_bare]
  have hsound : ∀ xs : List Piece, (∀ p ∈ xs.map Piece.bare, p.Sound) ↔ ∀ p ∈ xs, p.Sound := by
    intro xs
    rw [List.forall_mem_map]
    simp only [Piece.sound_bare_iff]
  exact ⟨hp.le, by rw [← htext, ← h, htext, hp.text], by rw [← hsound, ← h, hsound]; exact hp.sound⟩

/-- Pieces within a row are put together to a node. -/
theorem branch {kind : Kind} {xs ys : List Piece} (hp : Row s i (xs ++ ps ++ ys) j)
    (h : (∀ p ∈ ps, p.Sound) → (Piece.branch kind ps).Sound) :
    Row s i (xs ++ Piece.branch kind ps :: ys) j where
  le := hp.le
  text := by
    rw [← hp.text, List.append_assoc]
    simp only [List.flatMap_append, List.flatMap_cons, Node.textOfAll_append,
      Piece.textOfAll_branch]
  sound := by
    have hsound := hp.sound
    simp only [List.forall_mem_append, List.forall_mem_cons] at hsound ⊢
    exact ⟨hsound.1.1, h hsound.1.2, hsound.2⟩

end Row

end BundleGraph.Syntax
