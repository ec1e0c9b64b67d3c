import BundleGraph.Graph.Data
import BundleGraph.Proofs.Document.Check

/-! # Artifacts written and read back

    What a build leaves behind is written as document values and read by checks
    that know many more shapes than the written ones: fields may be absent, go
    by a second name, or hold something that only could be a number. The result
    of this file is that none of that gets in the way. Every record, written
    and read as its own kind, is the same record again.

    Two places decide this. An identifier may be a number or a string, and a
    string of digits must stay a string. The record of a node is a chunk or a
    module with no mark that says which; the kinds of chunks and the kinds of
    modules have no name in common, so at most one of the two checks passes.
-/

namespace BundleGraph

open Document

/-! ### Names -/

theorem ModuleKind.gives_name (k : ModuleKind) :
    (oneOf ModuleKind.names (.str k.name)).Gives k := by
  apply gives_oneOf
  cases k <;> rfl

theorem ChunkKind.gives_name (k : ChunkKind) : (oneOf ChunkKind.names (.str k.name)).Gives k := by
  apply gives_oneOf
  cases k <;> rfl

theorem NodeKind.gives_name (k : NodeKind) : (oneOf NodeKind.names (.str k.name)).Gives k := by
  apply gives_oneOf
  cases k <;> rfl

/-- The name of a kind of module is not one of a kind of chunk. -/
theorem ModuleKind.isBad_name (k : ModuleKind) : (oneOf ChunkKind.names (.str k.name)).IsBad := by
  apply isBad_oneOf
  cases k <;> rfl

/-- The name of a kind of chunk is not one of a kind of module. -/
theorem ChunkKind.isBad_name (k : ChunkKind) : (oneOf ModuleKind.names (.str k.name)).IsBad := by
  apply isBad_oneOf
  cases k <;> rfl

/-! ### Small records -/

theorem Document.gives_stringOrNull (s : Option String) :
    (optional string (stringOrNull s)).Gives s := by
  cases s with
  | none => exact Checked.gives_ok none 0
  | some s => exact (Checked.gives_ok s 0).map some

theorem SizeMetrics.gives_toJson (s : SizeMetrics) : (SizeMetrics.check s.toJson).Gives s := by
  obtain ⟨stat, parsed, gzip⟩ := s
  apply gives_object
  refine .seq (.seq (.first ?stat SizeMetrics.mk) ?parsed) ?gzip
  case stat => exact gives_field rfl fun _ => gives_natural stat
  case parsed => exact gives_field rfl fun _ => gives_natural parsed
  case gzip => exact gives_field rfl fun _ => gives_natural gzip

theorem Reason.gives_toJson (r : Reason) : (Reason.check r.toJson).Gives r := by
  obtain ⟨origin, explanation, type⟩ := r
  apply gives_object
  refine .seq (.seq (.first ?origin Reason.mk) ?explanation) ?type
  case origin => exact gives_field rfl fun _ => gives_stringOrNull origin
  case explanation => exact gives_field rfl fun _ => Checked.gives_ok explanation 0
  case type => exact gives_field rfl fun _ => gives_stringOrNull type

/-- An identifier that is a string stays one, whatever its letters are. -/
theorem BundlerId.gives_toJson (id : Option BundlerId) :
    (BundlerId.check (BundlerId.toJson id)).Gives id := by
  rcases id with _ | n | s
  · exact Checked.gives_ok none 0
  · exact Checked.gives_ok (some (BundlerId.number n)) 0
  · exact Checked.gives_ok (some (BundlerId.name s)) 0

example : (BundlerId.check (BundlerId.toJson (some (.name "12")))).toExcept "id" =
    .ok (some (.name "12")) := rfl

/-! ### Modules -/

/-- By recursion on the module: what is nested in it comes back as it was. -/
theorem Module.gives_toJson (m : Module) : (Module.check m.toJson).Gives m := by
  have hnested : ∀ n ∈ m.subModules, (Module.check n.toJson).Gives n :=
    fun n hn => n.gives_toJson
  obtain ⟨id, fileName, kind, sizes, exports, deadExports, isCommonJS, subModules, reasons⟩ := m
  rw [Module.check, Module.toJson, Module.toJsonList_eq]
  apply gives_object
  -- the fields are checked in the order of the record; each was written under its wire name
  refine .seq (.seq (.seq (.seq (.seq (.seq (.seq (.seq (.first ?hid Module.mk) ?hfileName) ?hkind)
    ?hsizes) ?hexports) ?hdeadExports) ?hisCommonJS) ?hsubModules) ?hreasons
  case hid => exact gives_field rfl fun _ => BundlerId.gives_toJson id
  case hfileName => exact gives_field rfl fun _ => Checked.gives_ok fileName 0
  case hkind => exact gives_field rfl fun _ => kind.gives_name
  case hsizes => exact gives_field rfl fun _ => sizes.gives_toJson
  case hexports => exact gives_field rfl fun _ => gives_strings exports
  case hdeadExports => exact gives_field rfl fun _ => gives_strings deadExports
  case hisCommonJS => exact gives_field rfl fun _ => Checked.gives_ok isCommonJS 0
  case hsubModules => exact gives_field rfl fun _ => gives_listOf fun n hn _ => hnested n hn
  case hreasons => exact gives_field rfl fun _ => gives_listOf fun r _ _ => r.gives_toJson
termination_by sizeOf m
decreasing_by
  have := List.sizeOf_lt_of_mem hn
  have := m.sizeOf_subModules
  omega

/-! ### Chunks -/

theorem Chunk.gives_toJson (c : Chunk) : (Chunk.check c.toJson).Gives c := by
  obtain ⟨id, kind, sizes, modules⟩ := c
  apply gives_object
  refine .seq (.seq (.seq (.first ?hid Chunk.mk) ?hkind) ?hsizes) ?hmodules
  case hid => exact gives_required rfl fun _ => Checked.gives_ok id 0
  case hkind => exact gives_field rfl fun _ => kind.gives_name
  case hsizes => exact gives_field rfl fun _ => sizes.gives_toJson
  case hmodules => exact gives_field rfl fun _ => gives_listOf fun m _ _ => m.gives_toJson

/-- A written chunk is no module: its kind is none of a module. -/
theorem Module.isBad_toJson_chunk (c : Chunk) : (Module.check c.toJson).IsBad := by
  rw [Module.check, Chunk.toJson]
  apply isBad_object
  -- the identifier and the absent name do no harm, and no later field can undo the fault
  refine .seq (.seq (.seq (.seq (.seq (.seq (.last ?hkind _) _) _) _) _) _) _
  case hkind => exact isBad_field rfl fun _ => c.kind.isBad_name

/-- A written module is no chunk: its kind is none of a chunk. -/
theorem Chunk.isBad_toJson_module (m : Module) : (Chunk.check m.toJson).IsBad := by
  obtain ⟨id, fileName, kind, sizes, exports, deadExports, isCommonJS, subModules, reasons⟩ := m
  rw [Chunk.check, Module.toJson]
  apply isBad_object
  refine .seq (.seq (.last ?hkind _) _) _
  case hkind => exact isBad_field rfl fun _ => kind.isBad_name

/-! ### Graphs -/

/-- Chunks and modules are told apart by the names of their kinds. -/
theorem NodeData.gives_toJson (d : NodeData) : (NodeData.check d.toJson).Gives d := by
  cases d with
  | chunk c => exact (gives_eitherRecord_left c.gives_toJson (Module.isBad_toJson_chunk c)).map _
  | module m => exact (gives_eitherRecord_right (Chunk.isBad_toJson_module m) m.gives_toJson).map _

theorem GraphNode.gives_toJson (n : GraphNode) : (GraphNode.check n.toJson).Gives n := by
  obtain ⟨id, kind, data, dependencies⟩ := n
  apply gives_object
  refine .seq (.seq (.seq (.first ?hid GraphNode.mk) ?hkind) ?hdata) ?hdependencies
  case hid => exact gives_required rfl fun _ => Checked.gives_ok id 0
  case hkind => exact gives_required rfl fun _ => kind.gives_name
  case hdata => exact gives_required rfl fun _ => data.gives_toJson
  case hdependencies => exact gives_field rfl fun _ => gives_strings dependencies

theorem GraphLink.gives_toJson (l : GraphLink) : (GraphLink.check l.toJson).Gives l := by
  obtain ⟨source, target, reason⟩ := l
  apply gives_object
  refine .seq (.seq (.first ?hsource GraphLink.mk) ?htarget) ?hreason
  case hsource => exact gives_required rfl fun _ => Checked.gives_ok source 0
  case htarget => exact gives_required rfl fun _ => Checked.gives_ok target 0
  case hreason =>
    cases reason with
    | none => exact gives_field rfl fun _ => Checked.gives_ok none 0
    | some r => exact gives_field rfl fun _ => r.gives_toJson.map some

theorem GraphData.gives_toJson (g : GraphData) : (GraphData.check g.toJson).Gives g := by
  obtain ⟨nodes, links⟩ := g
  apply gives_object
  refine .seq (.first ?hnodes GraphData.mk) ?hlinks
  case hnodes => exact gives_field rfl fun _ => gives_listOf fun n _ _ => n.gives_toJson
  case hlinks => exact gives_field rfl fun _ => gives_listOf fun l _ _ => l.gives_toJson

/-- **What is written is read back.** Every module, chunk, node, link and graph
    is the outcome of the check of its own written form. The record of a node
    comes back as a chunk if it was one and as a module if it was one, and an
    identifier comes back as the string, the number or the absence it was. -/
theorem written_artifacts_read_back :
    (∀ m : Module, (Module.check m.toJson).toExcept "Module" = .ok m) ∧
    (∀ c : Chunk, (Chunk.check c.toJson).toExcept "Chunk" = .ok c) ∧
    (∀ n : GraphNode, (GraphNode.check n.toJson).toExcept "GraphNode" = .ok n) ∧
    (∀ l : GraphLink, (GraphLink.check l.toJson).toExcept "GraphLink" = .ok l) ∧
    (∀ g : GraphData, (GraphData.check g.toJson).toExcept "GraphData" = .ok g) ∧
    (∀ d : NodeData, (NodeData.check d.toJson).toExcept "data" = .ok d) ∧
    (∀ id, (BundlerId.check (BundlerId.toJson id)).toExcept "id" = .ok id) := by
  refine ⟨fun m => ?_, fun c => ?_, fun n => ?_, fun l => ?_, fun g => ?_, fun d => ?_,
    fun id => ?_⟩
  · exact Checked.toExcept_eq_ok_iff.2 m.gives_toJson
  · exact Checked.toExcept_eq_ok_iff.2 c.gives_toJson
  · exact Checked.toExcept_eq_ok_iff.2 n.gives_toJson
  · exact Checked.toExcept_eq_ok_iff.2 l.gives_toJson
  · exact Checked.toExcept_eq_ok_iff.2 g.gives_toJson
  · exact Checked.toExcept_eq_ok_iff.2 d.gives_toJson
  · exact Checked.toExcept_eq_ok_iff.2 (BundlerId.gives_toJson id)

end BundleGraph
