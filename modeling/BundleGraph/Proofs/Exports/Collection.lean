import BundleGraph.Proofs.Exports.Shapes

/-! # What is collected from a tree

    The names that a tree exports as a CommonJS module are gathered from its nodes
    by the shapes of exports (`gathers_exports`, `gathers_reexports`): a name is
    among them if it is not empty and some node exports it, every name stands there
    once, and the names come in the order of the source.

    Arguments are found by their places, in which comments count. In a source
    without comments the places are the arguments (`agree_of_commentFree`). A call
    with a template in place of its arguments has no places; its pieces are no names
    and no modules.
-/

namespace BundleGraph.Exports

open Syntax

/-! ### Arguments -/

/-- Two ways to find the arguments of calls agree on all that begin with anything but a piece of a
    template. -/
def Agree (tree : Node) (arguments arguments' : Node → List Node) : Prop :=
  ∀ n ∈ tree.visit, n.kind = .call → ∀ a rest, a.kind ∉ templateKinds →
    (arguments n = a :: rest ↔ arguments' n = a :: rest)

section

variable {tree n key source call : Node} {arguments arguments' : Node → List Node}
  (h : Agree tree arguments arguments')

include h

theorem Agree.symm : Agree tree arguments' arguments :=
  fun n hn hkind a rest ha => (h n hn hkind a rest ha).symm

theorem NamesExport.of_agree (hn : n ∈ tree.visit) (hname : NamesExport arguments n key) :
    NamesExport arguments' n key := by
  cases hname with
  | member kind left_eq member => exact .member kind left_eq member
  | @defined target rest defines given exports word =>
    have hkind : n.kind = .call := by
      obtain ⟨_, _, _, hcalls, -⟩ := defines
      exact hcalls.kind
    have htarget : target.kind ∉ templateKinds := by
      rcases exports with hname | ⟨_, _, haccess, -⟩
      · rw [hname.kind]
        decide
      · rw [haccess.kind]
        decide
    exact .defined defines ((h n hn hkind target _ htarget).1 given) exports word
  | entry sets kind mem has => exact .entry sets kind mem has

theorem Requires.of_agree (hcall : call ∈ tree.visit) (hrequires : Requires arguments call source) :
    Requires arguments' call source := by
  obtain ⟨⟨callee, hcalls, hname⟩, ⟨rest, hfirst⟩, hword⟩ := hrequires
  have hsource : source.kind ∉ templateKinds := by
    rw [hword]
    decide
  exact ⟨⟨callee, hcalls, hname⟩, ⟨rest, (h call hcall hcalls.kind source rest hsource).1 hfirst⟩,
    hword⟩

theorem HandsOn.of_agree (harguments : ∀ m ∈ tree.visit, ∀ a ∈ arguments m, a ∈ tree.visit)
    (hn : n ∈ tree.visit) (hhands : HandsOn arguments n source) : HandsOn arguments' n source := by
  cases hhands with
  | @whole call sets requires =>
    have hcall := Node.mem_visit_of_mem_children hn (Node.mem_children_of_child? sets.right_eq)
    exact .whole sets (requires.of_agree h hcall)
  | @helper name call rest name_mem calls given requires =>
    have hkind : n.kind = .call := by
      obtain ⟨_, hcalls, -⟩ := calls
      exact hcalls.kind
    have hcall : call.kind ∉ templateKinds := by
      obtain ⟨_, hcalls, -⟩ := requires.calls
      rw [hcalls.kind]
      decide
    have hvisit : call ∈ tree.visit := harguments n hn call (given ▸ List.mem_cons_self)
    exact .helper name_mem calls ((h n hn hkind call rest hcall).1 given)
      (requires.of_agree h hvisit)
  | entry sets kind mem spreads => exact .entry sets kind mem spreads

end

theorem Agree.refl (tree : Node) (arguments : Node → List Node) : Agree tree arguments arguments :=
  fun _ _ _ _ _ _ => Iff.rfl

/-- Without comments the places of an argument list are the arguments. -/
theorem agree_of_commentFree {tree : Node} (hregular : ∀ n ∈ tree.visit, n.Regular)
    (hfree : ∀ n ∈ tree.visit, n.kind ≠ .comment) : Agree tree argumentPlaces argumentNodes := by
  intro n hn hkind a rest ha
  unfold argumentPlaces argumentNodes
  cases hlist : n.child? .arguments with
  | none => rfl
  | some list =>
    have hvisit := Node.mem_visit_of_mem_children hn (Node.mem_children_of_child? hlist)
    have hnamed : list.namedChildren.filter (fun c => c.kind ≠ .comment) = list.namedChildren := by
      refine List.filter_eq_self.2 fun c hc => decide_eq_true ?_
      exact hfree c (Node.mem_visit_of_mem_children hvisit
        (Node.mem_children_of_mem_namedChildren hc))
    simp only [hnamed]
    rcases (hregular n hn).call hkind list hlist with harguments | htemplate
    · rw [if_pos harguments]
    · have hother : list.kind ≠ .arguments := by
        rw [htemplate]
        nofun
      rw [if_neg hother]
      refine iff_of_false (List.cons_ne_nil a rest).symm fun h => ha ?_
      -- the first piece of a template is a piece of a template
      have hmem : a ∈ list.namedChildren := h ▸ List.mem_cons_self
      refine (hregular list hvisit).template htemplate a ?_
      rw [Node.constituents, List.mem_filter, decide_eq_true_iff]
      have hchild := Node.mem_children_of_mem_namedChildren hmem
      exact ⟨hchild, hfree a (Node.mem_visit_of_mem_children hvisit hchild)⟩

/-! ### Trees -/

/-- The names are those of the keys for which `R` holds of a node of the tree. -/
structure Gathers (tree : Node) (R : Node → Node → Prop) (names : List String) : Prop where
  mem_iff : ∀ s, s ∈ names ↔ s ≠ "" ∧ ∃ n ∈ tree.visit, ∃ key, R n key ∧ keyText key = s
  nodup : names.Nodup
  /-- Node by node, and in each node key by key. -/
  order : ∃ found, List.Forall₂ (fun n ss => Lists n (R n) ss) tree.visit found ∧
    names = firstOccurrences (found.flatten.filter (· ≠ ""))

theorem Gathers.of_lists {tree : Node} {R : Node → Node → Prop} {f : Node → List String}
    (h : ∀ n ∈ tree.visit, Lists n (R n) (f n)) :
    Gathers tree R (firstOccurrences ((tree.visit.flatMap f).filter (· ≠ ""))) where
  mem_iff s := by
    rw [mem_firstOccurrences, List.mem_filter, decide_eq_true_iff, and_comm, List.mem_flatMap]
    exact and_congr_right fun _ => exists_congr fun n => and_congr_right fun hn => (h n hn).mem_iff
  nodup := nodup_firstOccurrences _
  order := by
    refine ⟨tree.visit.map f, ?_, rfl⟩
    rw [List.forall₂_map_right_iff, List.forall₂_same]
    exact h

section

variable {tree : Node} {arguments : Node → List Node} (h : Agree tree argumentPlaces arguments)
  (harguments : ∀ n ∈ tree.visit, ∀ a ∈ arguments n, a ∈ tree.visit)

include h

/-- A tree exports the names that its nodes export. -/
theorem gathers_exports : Gathers tree (NamesExport arguments) (collected tree).exports := by
  have hlists : ∀ n ∈ tree.visit, Lists n (NamesExport arguments n) (nodeExports n).exports :=
    fun n hn => (lists_nodeExports n).congr fun key =>
      ⟨fun hname => hname.of_agree h hn, fun hname => hname.of_agree h.symm hn⟩
  have hgathers := Gathers.of_lists hlists
  rwa [← List.flatMap_map] at hgathers

include harguments

/-- A tree hands on the modules that its nodes hand on. -/
theorem gathers_reexports : Gathers tree (HandsOn arguments) (collected tree).reexports := by
  have hplaces : ∀ n ∈ tree.visit, ∀ a ∈ argumentPlaces n, a ∈ tree.visit :=
    fun _ hn _ ha => mem_visit_of_mem_argumentPlaces hn ha
  have hlists : ∀ n ∈ tree.visit, Lists n (HandsOn arguments n) (nodeExports n).reexports :=
    fun n hn => (lists_nodeReexports n).congr fun source =>
      ⟨fun hhands => hhands.of_agree h hplaces hn,
        fun hhands => hhands.of_agree h.symm harguments hn⟩
  have hgathers := Gathers.of_lists hlists
  rwa [← List.flatMap_map] at hgathers

end

/-- **What is collected from a tree** of regular nodes without comments are the names and the
    modules of the shapes that there are, each once and in the order of the source. -/
theorem collected_of_commentFree {tree : Node} (hregular : ∀ n ∈ tree.visit, n.Regular)
    (hfree : ∀ n ∈ tree.visit, n.kind ≠ .comment) :
    Gathers tree (NamesExport argumentNodes) (collected tree).exports ∧
      Gathers tree (HandsOn argumentNodes) (collected tree).reexports := by
  have hagree := agree_of_commentFree hregular hfree
  exact ⟨gathers_exports hagree,
    gathers_reexports hagree fun _ hn _ ha => mem_visit_of_mem_argumentNodes hn ha⟩

/-- A source that names a member of its exports and replaces them by an object. -/
def replacedExports : String := "exports.a = module.exports = \x7bb, 'c': 1, ...require('d')\x7d"

theorem collected_of_replacedExports :
    (∀ n ∈ (treeOf .javascript replacedExports).visit, n.Regular) ∧
      (∀ n ∈ (treeOf .javascript replacedExports).visit, n.kind ≠ .comment) ∧
      Gathers (treeOf .javascript replacedExports) (NamesExport argumentNodes) ["a", "b", "c"] ∧
      Gathers (treeOf .javascript replacedExports) (HandsOn argumentNodes) ["d"] := by
  have hregular := regular_treeOf .javascript replacedExports
  have hread : (∀ n ∈ (treeOf .javascript replacedExports).visit, n.kind ≠ .comment) ∧
      collected (treeOf .javascript replacedExports) = ⟨["a", "b", "c"], ["d"]⟩ := by
    decide +kernel
  have hgathers := collected_of_commentFree hregular hread.1
  rw [hread.2] at hgathers
  exact ⟨hregular, hread.1, hgathers⟩

end BundleGraph.Exports
