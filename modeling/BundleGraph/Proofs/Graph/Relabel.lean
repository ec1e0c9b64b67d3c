import BundleGraph.Proofs.Graph.Build

/-! # What the graph does not read

    Of a module the graph reads its name, its kind, its reasons and what is
    nested in it. A `Relabelling` changes anything else, at every depth.

    Relabelled chunks build the relabelled graph (`buildGraph_relabel`): the same
    nodes and links in the same order, with relabelled records, or the same
    broken rule. Each step of the build is followed: walks, the registry, the
    search for importers, and the store.
-/

namespace BundleGraph

open BundleGraph.Graph

/-- A change of modules that leaves names, kinds, reasons and nesting alone. -/
structure Relabelling where
  /-- The changed module. -/
  apply : Module → Module
  /-- The name stays. -/
  fileName_apply : ∀ m, (apply m).fileName = m.fileName
  /-- The kind stays. -/
  kind_apply : ∀ m, (apply m).kind = m.kind
  /-- The reasons stay. -/
  reasons_apply : ∀ m, (apply m).reasons = m.reasons
  /-- What is nested is changed in the same way. -/
  subModules_apply : ∀ m, (apply m).subModules = m.subModules.map apply

instance : CoeFun Relabelling fun _ => Module → Module := ⟨Relabelling.apply⟩

variable (φ : Relabelling)

/-- The chunk with all its modules changed. -/
def Chunk.relabel (c : Chunk) : Chunk := { c with modules := c.modules.map φ }

/-- The record of a node with all its modules changed. -/
def NodeData.relabel : NodeData → NodeData
  | chunk c => chunk (c.relabel φ)
  | module m => module (φ m)

/-- The graph with the records of all its nodes changed. -/
def GraphData.relabel (g : GraphData) : GraphData :=
  { g with nodes := g.nodes.map fun n => { n with data := n.data.relabel φ } }

/-! ### Walks -/

/-- Changing values before a walk or after it is the same, if it is the same for what a value
    unfolds into. -/
theorem Unfolding.walk_map {α : Type} [SizeOf α] {u : Unfolding α} {f : α → α}
    (h : ∀ a, u.children (f a) = (u.children a).map f) (xs : List α) :
    u.walk (xs.map f) = (u.walk xs).map f := by
  have side : ∀ {xs ys : List α}, List.Forall₂ (fun a b => f a = b) xs ys ↔ xs.map f = ys := by
    intro xs ys
    rw [← List.forall₂_map_left_iff (R := fun a b => a = b) (f := f), List.forall₂_eq_eq_eq]
  refine (side.1 (forall₂_walk ?_ (side.2 rfl))).symm
  intro a b hab
  rw [← hab]
  exact side.2 (h a).symm

namespace Relabelling

theorem isWrapper_apply (m : Module) : (φ m).isWrapper = m.isWrapper := by
  rw [Module.isWrapper, φ.kind_apply, Module.isWrapper]

theorem children_carried_apply (m : Module) :
    Module.carried.children (φ m) = (Module.carried.children m).map φ := by
  show (if (φ m).isWrapper then (φ m).subModules else []) =
    (if m.isWrapper then m.subModules else []).map φ
  rw [φ.isWrapper_apply, φ.subModules_apply]
  split <;> rfl

theorem nested_apply (m : Module) : (φ m).nested = m.nested.map φ := by
  show Module.parts.walk (φ m).subModules = _
  rw [φ.subModules_apply]
  exact Unfolding.walk_map φ.subModules_apply _

theorem map_fileName (ms : List Module) :
    (ms.map φ).map Module.fileName = ms.map Module.fileName := by
  rw [List.map_map]
  exact List.map_congr_left fun m _ => φ.fileName_apply m

/-- A changed wrapper is brought in by the same modules. -/
theorem inbound_apply (w : Module) : (φ w).inbound = w.inbound := by
  have hinside : (φ w).insideNames = w.insideNames := by
    rw [Module.insideNames, φ.fileName_apply, φ.nested_apply, φ.map_fileName, Module.insideNames]
  rw [Module.inbound, φ.reasons_apply, hinside, φ.nested_apply, List.flatMap_map, Module.inbound]
  simp only [φ.reasons_apply]

end Relabelling

theorem Chunk.carried_relabel (c : Chunk) : (c.relabel φ).carried = c.carried.map φ :=
  Unfolding.walk_map φ.children_carried_apply c.modules

/-! ### The registry -/

namespace Registry

/-- The registry with all its modules changed. -/
def relabel (r : Registry) : Registry := ⟨r.modules.mapValues φ, r.wrappers.mapValues φ⟩

theorem named_map (ms : List Module) :
    named (ms.map φ) = (named ms).map fun e => (e.1, φ e.2) := by
  rw [named, named, List.filter_map, List.map_map, List.map_map]
  simp only [Function.comp_def, φ.fileName_apply]

theorem build_relabel (chunks : List Chunk) :
    build (chunks.map fun c => c.relabel φ) = (build chunks).relabel φ := by
  have hcarried : carried (chunks.map fun c => c.relabel φ) = (carried chunks).map φ := by
    rw [carried, List.filter_map, List.flatMap_map, carried, List.map_flatMap]
    simp only [Chunk.carried_relabel]
    rfl
  rw [build, hcarried, List.filter_map, List.filter_map, named_map, named_map, relabel, build,
    OrderedMap.mapValues_ofListFirst, OrderedMap.mapValues_ofListFirst]
  simp only [Function.comp_def, φ.isWrapper_apply]

variable (r : Registry)

theorem contains_relabel (f : String) : (r.relabel φ).contains f = r.contains f := by
  rw [Bool.eq_iff_iff, contains_iff, contains_iff, relabel, OrderedMap.keys_mapValues]

theorem isWrapper_relabel (f : String) : (r.relabel φ).isWrapper f = r.isWrapper f := by
  rw [Bool.eq_iff_iff, isWrapper_iff, isWrapper_iff, relabel, OrderedMap.keys_mapValues,
    OrderedMap.keys_mapValues]

theorem get?_relabel (f : String) : (r.relabel φ).get? f = (r.get? f).map φ :=
  OrderedMap.lookup?_mapValues _ _ _

theorem inbound_relabel (f : String) : (r.relabel φ).inbound f = r.inbound f := by
  rw [inbound, relabel, OrderedMap.lookup?_mapValues, inbound]
  cases r.wrappers.lookup? f with
  | none => rfl
  | some w => exact φ.inbound_apply w

theorem importers_relabel (f : String) : (r.relabel φ).importers f = r.importers f := by
  have hkeys : (r.relabel φ).wrappers.keys = r.wrappers.keys := OrderedMap.keys_mapValues _ _
  have hinbound := funext (r.inbound_relabel φ)
  have hcontains := funext (r.contains_relabel φ)
  have hwrapper := funext (r.isWrapper_relabel φ)
  rw [importers, wrappersBehind, hkeys, hinbound, hcontains, hwrapper, importers, wrappersBehind]

/-- The imports do not change. -/
theorem importLinks_relabel : (r.relabel φ).importLinks = r.importLinks := by
  have hsources : (r.relabel φ).sourcesOf = r.sourcesOf := by
    funext reason
    rw [sourcesOf, sourcesOf]
    simp only [contains_relabel, isWrapper_relabel, importers_relabel]
  have hlinks : ∀ m, (r.relabel φ).linksOfModule (φ m) = r.linksOfModule m := by
    intro m
    have hreason : (r.relabel φ).linksOfReason m.fileName = r.linksOfReason m.fileName := by
      funext reason
      rw [linksOfReason, hsources, linksOfReason]
    rw [linksOfModule, φ.reasons_apply, φ.fileName_apply, hreason, linksOfModule]
  rw [importLinks, importLinks, relabel, OrderedMap.values_mapValues, List.flatMap_map]
  exact congrArg (r.modules.values.flatMap ·) (funext hlinks)

end Registry

/-! ### The store -/

namespace Graph.Store

/-- The store with the records of all its nodes changed. -/
def relabel (g : Store) : Store where
  nodes := g.nodes.mapValues (NodeData.relabel φ)
  links := g.links
  closed := by
    intro p hp
    rw [OrderedMap.keys_mapValues]
    exact g.closed p hp

theorem kind_relabel (d : NodeData) : (d.relabel φ).kind = d.kind := by
  cases d <;> rfl

theorem addNode_relabel (g : Store) (id : String) (d : NodeData) :
    (g.relabel φ).addNode id (d.relabel φ) = (g.addNode id d).map (relabel φ) := by
  rw [addNode, addNode, relabel, OrderedMap.lookup?_mapValues]
  cases g.nodes.lookup? id with
  | none =>
    exact congrArg Except.ok (Store.ext (OrderedMap.mapValues_insertNew _ _ _ _).symm rfl)
  | some old =>
    show (if (old.relabel φ).kind = (d.relabel φ).kind then _ else _) =
      (if old.kind = d.kind then _ else _ : Except Violation Store).map (relabel φ)
    rw [kind_relabel, kind_relabel]
    split <;> rfl

theorem addModule_relabel (g : Store) (m : Module) :
    (g.relabel φ).addModule (φ m) = (g.addModule m).map (relabel φ) := by
  rw [addModule, addModule, φ.isWrapper_apply, φ.fileName_apply]
  split
  · rfl
  · exact addNode_relabel φ g m.fileName (.module m)

theorem addLink_relabel (g : Store) (source target : String) (reason : Option Reason) :
    (g.relabel φ).addLink source target reason =
      (g.addLink source target reason).map (relabel φ) := by
  have hkeys : (g.relabel φ).nodes.keys = g.nodes.keys := OrderedMap.keys_mapValues _ _
  by_cases hends : source ∈ g.nodes.keys ∧ target ∈ g.nodes.keys
  · have hends' : source ∈ (g.relabel φ).nodes.keys ∧ target ∈ (g.relabel φ).nodes.keys := by
      rwa [hkeys]
    rw [addLink, dif_pos hends', addLink, dif_pos hends]
    rfl
  · have hends' : ¬ (source ∈ (g.relabel φ).nodes.keys ∧ target ∈ (g.relabel φ).nodes.keys) := by
      rwa [hkeys]
    rw [addLink, dif_neg hends', addLink, dif_neg hends, hkeys]
    rfl

theorem foldlM_addLink_relabel (ls : List GraphLink) (g : Store) :
    ls.foldlM (fun (g : Store) l => g.addLink l.source l.target l.reason) (g.relabel φ) =
      (ls.foldlM (fun (g : Store) l => g.addLink l.source l.target l.reason) g).map
        (relabel φ) := by
  have hrun := foldlM_map_of_step (q := fun l => l) (p := relabel φ)
    (f := fun (g : Store) (l : GraphLink) => g.addLink l.source l.target l.reason)
    (g := fun (g : Store) (l : GraphLink) => g.addLink l.source l.target l.reason)
    (fun g l => addLink_relabel φ g l.source l.target l.reason) ls g
  rwa [List.map_id'] at hrun

theorem addContents_relabel (r : Registry) (g : Store) (c : Chunk) :
    addContents (r.relabel φ) (g.relabel φ) (c.relabel φ) =
      (addContents r g c).map (relabel φ) := by
  have hcontents : ((c.carried.map φ).filter fun m => !m.isWrapper && m.fileName ≠ "") =
      (c.carried.filter fun m => !m.isWrapper && m.fileName ≠ "").map φ := by
    rw [List.filter_map]
    simp only [Function.comp_def, φ.isWrapper_apply, φ.fileName_apply]
  rw [addContents, Chunk.carried_relabel, hcontents, addContents]
  apply foldlM_map_of_step
  intro g m
  have hrecord : ((r.relabel φ).get? m.fileName).getD (φ m) =
      φ ((r.get? m.fileName).getD m) := by
    rw [Registry.get?_relabel]
    cases r.get? m.fileName <;> rfl
  rw [φ.fileName_apply, hrecord, addModule_relabel]
  cases g.addModule ((r.get? m.fileName).getD m) with
  | error v => rfl
  | ok g' => exact addLink_relabel φ g' _ _ _

theorem toGraphData_relabel (g : Store) :
    (g.relabel φ).toGraphData = g.toGraphData.relabel φ := by
  have hnodes : (g.relabel φ).toGraphData.nodes = (g.toGraphData.relabel φ).nodes := by
    show List.map _ (List.map _ g.nodes.entries) = List.map _ (List.map _ g.nodes.entries)
    rw [List.map_map, List.map_map]
    apply List.map_congr_left
    intro e _
    show GraphNode.mk e.1 (e.2.relabel φ).kind (e.2.relabel φ) (g.targets e.1) = _
    rw [kind_relabel]
    rfl
  exact congrArg (fun nodes => GraphData.mk nodes g.linkList) hnodes

end Graph.Store

/-! ### The whole build -/

/-- A build in three runs: over the chunks, over their contents, and over the imports. -/
theorem buildStore_eq (chunks : List Chunk) :
    buildStore chunks = (do
      let g ← (chunks.filter fun c => c.id ≠ "").foldlM Store.addChunk .empty
      let g ← (chunks.filter fun c => c.id ≠ "").foldlM (Store.addContents (.build chunks)) g
      (Registry.build chunks).importLinks.foldlM
        (fun g l => g.addLink l.source l.target l.reason) g) :=
  (Resolver.ofRegistry (.build chunks)).fst_build (Registry.build_sound chunks) chunks

theorem buildStore_relabel (chunks : List Chunk) :
    buildStore (chunks.map fun c => c.relabel φ) = (buildStore chunks).map (Store.relabel φ) := by
  have hnamed : (chunks.map fun c => c.relabel φ).filter (fun c => c.id ≠ "") =
      (chunks.filter fun c => c.id ≠ "").map fun c => c.relabel φ := by
    rw [List.filter_map]
    rfl
  rw [buildStore_eq, buildStore_eq, Registry.build_relabel, Registry.importLinks_relabel, hnamed]
  -- each of the three runs is followed step by step
  calc _ = (((chunks.filter fun c => c.id ≠ "").foldlM Store.addChunk .empty).map
          (Store.relabel φ) >>= _) :=
        congrArg (· >>= _) (foldlM_map_of_step (p := Store.relabel φ)
          (fun g c => Store.addNode_relabel φ g c.id (.chunk c)) _ .empty)
    _ = _ := bind_map_of_step (fun g => ?_) _
  exact (congrArg (· >>= _) (foldlM_map_of_step (Store.addContents_relabel φ _) _ g)).trans
    (bind_map_of_step (Store.foldlM_addLink_relabel φ _) _)

/-- Relabelled chunks build the relabelled graph, or break the same rule. -/
theorem buildGraph_relabel (chunks : List Chunk) :
    buildGraph (chunks.map fun c => c.relabel φ) =
      (buildGraph chunks).map (GraphData.relabel φ) := by
  rw [buildGraph_eq, buildGraph_eq, buildStore_relabel]
  cases buildStore chunks with
  | error v => rfl
  | ok g => exact congrArg Except.ok (Store.toGraphData_relabel φ g)

end BundleGraph
