import BundleGraph.Assembly.Chunks
import BundleGraph.Proofs.Computations
import BundleGraph.Proofs.Nesting

/-! # Assembled modules

    Assembly takes a table of analyses along, so what it makes of a module depends
    on the modules before it. Here assembly is told beforehand how every analysis
    comes out, those that fail included (`Prepared`), and each module can be looked
    at by itself.

    An assembled module has the name and the kind of its record, and the exports
    that are known of its source. A wrapper holds what its record is made of,
    and nothing else holds anything; so the modules at any depth in an assembled
    chunk are, one by one and in order, made from what the chunk's record carries
    (`Prepared.forall₂_parts`).
-/

namespace BundleGraph

open Stats

theorem Stats.ModuleRecord.mem_children_carried {w r : ModuleRecord} :
    r ∈ ModuleRecord.carried.children w ↔ w.kind = .concatenated ∧ r ∈ w.modules := by
  by_cases hw : w.kind = .concatenated <;> simp [ModuleRecord.carried, ModuleRecord.isWrapper, hw]

theorem Stats.ModuleRecord.children_carried_of_wrapper {r : ModuleRecord}
    (hr : r.kind = .concatenated) : ModuleRecord.carried.children r = r.modules :=
  if_pos (by simpa [ModuleRecord.isWrapper] using hr)

theorem Stats.ModuleRecord.children_carried_of_single {r : ModuleRecord}
    (hr : r.kind ≠ .concatenated) : ModuleRecord.carried.children r = [] :=
  if_neg (by simpa [ModuleRecord.isWrapper] using hr)

/-- `r.KeptBy m`: the module has what the record says of the module itself. -/
structure Stats.ModuleRecord.KeptBy (r : ModuleRecord) (m : Module) : Prop where
  id : m.id = r.id
  fileName : m.fileName = r.fileName
  kind : m.kind = r.kind
  reasons : m.reasons = r.reasons.map fun x => ⟨x.origin, x.explanation, x.type⟩

/-- How analyses come out, by the names of the sources. -/
abbrev Outcomes := OrderedMap String (Except AssemblyError Exports.ModuleExports)

/-- What a build is assembled from if all analyses were made before. -/
structure Prepared where
  table : Outcomes
  sizes : Sizes.Report
  markers : TimingMarkers

namespace Prepared

/-! ### Assembly with a given table -/

/-- The exports of a module in the table; only sources have any. -/
def exportsOf (p : Prepared) (kind : ModuleKind) (fileName : String) :
    Except AssemblyError Exports.ModuleExports :=
  if kind = .normal ∧ fileName ≠ "" then (p.table.lookup? fileName).getD (.ok .empty)
  else .ok .empty

mutual

/-- A module of a chunk, within a wrapper if it is in one. -/
def module (p : Prepared) (chunk : String) (wrapper : Option String) :
    ModuleRecord → Except AssemblyError Module
  | r@⟨_, kind, fileName, _, _, _, modules⟩ => do
    let subModules ←
      if kind = .concatenated then p.modules chunk (some fileName) modules else .ok []
    let exports ← p.exportsOf kind fileName
    let sizes ← sizesIn p.sizes chunk (sizeNeedle kind wrapper fileName)
    return r.made subModules exports sizes

/-- Modules in order. -/
def modules (p : Prepared) (chunk : String) (wrapper : Option String) :
    List ModuleRecord → Except AssemblyError (List Module)
  | [] => pure []
  | r :: rest => do
    let first ← p.module chunk wrapper r
    let others ← p.modules chunk wrapper rest
    return first :: others

end

def chunk (p : Prepared) (c : ChunkRecord) : Except AssemblyError Chunk := do
  return c.made p.sizes p.markers (← p.modules c.key none c.modules)

def chunks (p : Prepared) (s : BuildStats) : Except AssemblyError (List Chunk) :=
  s.chunks.mapM p.chunk

/-! ### One module -/

/-- The modules that the module of a record holds: those that a wrapper is made of. -/
def heldBy (p : Prepared) (chunk : String) (r : ModuleRecord) :
    Except AssemblyError (List Module) :=
  if r.kind = .concatenated then p.modules chunk (some r.fileName) r.modules else .ok []

variable {p : Prepared} {chunk : String}

theorem module_eq (p : Prepared) (chunk : String) (wrapper : Option String) (r : ModuleRecord) :
    p.module chunk wrapper r = (do
      let subModules ← p.heldBy chunk r
      let exports ← p.exportsOf r.kind r.fileName
      let sizes ← sizesIn p.sizes chunk (sizeNeedle r.kind wrapper r.fileName)
      return r.made subModules exports sizes) := by
  obtain ⟨id, kind, fileName, resource, reasons, usedExports, modules⟩ := r
  rw [module, heldBy]
  split <;> rfl

theorem module_eq_ok_iff {wrapper : Option String} {r : ModuleRecord} {m : Module} :
    p.module chunk wrapper r = .ok m ↔ ∃ subModules, p.heldBy chunk r = .ok subModules ∧
      ∃ exports, p.exportsOf r.kind r.fileName = .ok exports ∧
      ∃ sizes, sizesIn p.sizes chunk (sizeNeedle r.kind wrapper r.fileName) = .ok sizes ∧
        r.made subModules exports sizes = m := by
  rw [module_eq]
  simp only [bind_eq_ok_iff, pure, Except.pure, Except.ok.injEq]

theorem modules_eq_mapM (p : Prepared) (chunk : String) (wrapper : Option String)
    (rs : List ModuleRecord) : p.modules chunk wrapper rs = rs.mapM (p.module chunk wrapper) := by
  induction rs with
  | nil => rfl
  | cons r rs ih => rw [modules, List.mapM_cons, ih]

/-- Modules are assembled side by side with their records. -/
theorem modules_eq_ok_iff {wrapper : Option String} {rs : List ModuleRecord} {ms : List Module} :
    p.modules chunk wrapper rs = .ok ms ↔
      List.Forall₂ (fun r m => p.module chunk wrapper r = .ok m) rs ms := by
  rw [modules_eq_mapM, mapM_eq_ok_iff]

/-! ### All depths -/

/-- `p.Makes chunk r m`: the module `m` of the chunk is made from the record `r`. -/
def Makes (p : Prepared) (chunk : String) (r : ModuleRecord) (m : Module) : Prop :=
  ∃ wrapper, p.module chunk wrapper r = .ok m

theorem Makes.keptBy {r : ModuleRecord} {m : Module} (h : p.Makes chunk r m) : r.KeptBy m := by
  obtain ⟨_, h⟩ := h
  obtain ⟨_, _, _, _, _, _, rfl⟩ := module_eq_ok_iff.1 h
  exact ⟨rfl, rfl, rfl, rfl⟩

theorem Makes.kind_eq {r : ModuleRecord} {m : Module} (h : p.Makes chunk r m) :
    m.kind = r.kind := h.keptBy.kind

theorem Makes.fileName_eq {r : ModuleRecord} {m : Module} (h : p.Makes chunk r m) :
    m.fileName = r.fileName := h.keptBy.fileName

/-- A module says of its exports what is known of its source. -/
theorem Makes.exports_eq {r : ModuleRecord} {m : Module} (h : p.Makes chunk r m) :
    p.exportsOf m.kind m.fileName = .ok ⟨m.isCommonJS, m.exports, m.deadExports⟩ := by
  obtain ⟨_, h⟩ := h
  obtain ⟨_, _, _, hexports, _, _, rfl⟩ := module_eq_ok_iff.1 h
  exact hexports

/-- A module holds what its record carries. -/
theorem Makes.forall₂_children {r : ModuleRecord} {m : Module} (h : p.Makes chunk r m) :
    List.Forall₂ (p.Makes chunk) (ModuleRecord.carried.children r) (Module.parts.children m) := by
  obtain ⟨_, h⟩ := h
  obtain ⟨subModules, hheld, _, _, _, _, rfl⟩ := module_eq_ok_iff.1 h
  rw [heldBy] at hheld
  by_cases hw : r.kind = .concatenated
  · rw [if_pos hw, modules_eq_ok_iff] at hheld
    rw [ModuleRecord.children_carried_of_wrapper hw]
    exact hheld.imp fun r m h => ⟨_, h⟩
  · rw [if_neg hw, Except.ok.injEq] at hheld
    rw [ModuleRecord.children_carried_of_single hw, ← hheld]
    exact .nil

/-- Only wrappers hold modules, so a chunk carries all that is in it. -/
theorem Makes.children_carried {r : ModuleRecord} {m : Module} (h : p.Makes chunk r m) :
    Module.carried.children m = Module.parts.children m := by
  by_cases hw : m.kind = .concatenated
  · exact if_pos (Module.isWrapper_iff.2 hw)
  · have hsub := h.forall₂_children
    rw [ModuleRecord.children_carried_of_single (h.kind_eq ▸ hw), List.forall₂_nil_left_iff] at hsub
    rw [hsub]
    exact if_neg (mt Module.isWrapper_iff.1 hw)

theorem Makes.forall₂_carried_children {r : ModuleRecord} {m : Module} (h : p.Makes chunk r m) :
    List.Forall₂ (p.Makes chunk) (ModuleRecord.carried.children r) (Module.carried.children m) := by
  rw [h.children_carried]
  exact h.forall₂_children

/-! ### Chunks -/

theorem chunk_eq_ok_iff {r : ChunkRecord} {c : Chunk} :
    p.chunk r = .ok c ↔ c.id = r.key ∧ c.kind = p.markers.classify r.initial r.locations ∧
      c.sizes = p.sizes.chunkSize r.key ∧ p.modules r.key none r.modules = .ok c.modules := by
  rw [chunk, bind_eq_ok_iff]
  constructor
  · intro h
    obtain ⟨ms, hms, h⟩ := h
    obtain rfl := Except.ok.inj h
    exact ⟨rfl, rfl, rfl, hms⟩
  · intro h
    obtain ⟨hid, hkind, hsizes, hms⟩ := h
    refine ⟨c.modules, hms, ?_⟩
    rw [ChunkRecord.made, ← hkind, ← hsizes, ← hid]
    rfl

/-- Chunks are assembled side by side with their records. -/
theorem chunks_eq_ok_iff {s : BuildStats} {cs : List Chunk} :
    p.chunks s = .ok cs ↔ List.Forall₂ (fun r c => p.chunk r = .ok c) s.chunks cs :=
  mapM_eq_ok_iff

section

variable {r : ChunkRecord} {c : Chunk}

theorem forall₂_modules (h : p.chunk r = .ok c) :
    List.Forall₂ (p.Makes r.key) r.modules c.modules :=
  (modules_eq_ok_iff.1 (chunk_eq_ok_iff.1 h).2.2.2).imp fun _ _ h => ⟨_, h⟩

/-- The modules at any depth in a chunk are made from what its record carries. -/
theorem forall₂_parts (h : p.chunk r = .ok c) :
    List.Forall₂ (p.Makes r.key) r.carried (Module.parts.walk c.modules) :=
  Unfolding.forall₂_walk Makes.forall₂_children (forall₂_modules h)

/-- A chunk carries what is made from what its record carries. -/
theorem forall₂_carried (h : p.chunk r = .ok c) :
    List.Forall₂ (p.Makes r.key) r.carried c.carried :=
  Unfolding.forall₂_walk Makes.forall₂_carried_children (forall₂_modules h)

end

end Prepared

end BundleGraph
