import BundleGraph.Proofs.Assembly.KeptWhole

/-! # Runtimes do not interfere

    A record can say for each runtime by itself which exports are used. An
    analysis is made for one runtime, and what is recorded for the others does
    not show in it: two builds whose records agree on the one runtime have the
    same report, or fail with the same error (`analyzeBuild_of_agreesOn`).

    To agree is defined by what is left of a build when the entries of all other
    runtimes are taken out. Taking them out changes no step of the analysis.
-/

namespace BundleGraph

open Stats

/-! ### Entries of one runtime -/

namespace Json

/-- What the members of an object that is keyed by runtimes say for one of them. -/
def entryOf (runtime : String) (members : List (String × Json)) : Option Json :=
  (findMember runtime members).map Subtype.val

/-- What a recorded value says for one runtime: of an object only the entry of this runtime is left;
    any other value holds for every runtime. -/
def forRuntime (runtime : String) : Json → Json
  | .obj members => .obj ((entryOf runtime members).map fun v => (runtime, v)).toList
  | v => v

end Json

namespace UsageOracle

/-- A record that is keyed by runtimes is read through the entry of the one, if there is any. -/
theorem readRecord_obj (runtime : String) (members : List (String × Json)) :
    readRecord (.obj members) (some runtime) =
      ((Json.entryOf runtime members).map Usage.ofJson).getD .unknown := by
  rw [readRecord, Option.bind_some, Json.entryOf]
  cases Json.findMember runtime members <;> rfl

/-- The other entries are not read. -/
theorem readRecord_forRuntime (runtime : String) (record : Json) :
    readRecord (record.forRuntime runtime) (some runtime) = readRecord record (some runtime) := by
  cases record with
  | obj members =>
    -- the entry is found again in the object that has no other
    have hleft : Json.entryOf runtime
        ((Json.entryOf runtime members).map fun v => (runtime, v)).toList =
          Json.entryOf runtime members := by
      cases Json.entryOf runtime members with
      | none => rfl
      | some v => simp [Json.entryOf, Json.findMember]
    rw [Json.forRuntime, readRecord_obj, readRecord_obj, hleft]
  | _ => rfl

end UsageOracle

namespace Stats

namespace ModuleRecord

mutual

/-- The record without the entries of other runtimes, in itself and in what it is made of. -/
def forRuntime (runtime : String) : ModuleRecord → ModuleRecord
  | ⟨id, kind, fileName, resource, reasons, usedExports, modules⟩ =>
    ⟨id, kind, fileName, resource, reasons, usedExports.forRuntime runtime,
      forRuntimeAll runtime modules⟩

/-- The records without the entries of other runtimes. -/
def forRuntimeAll (runtime : String) : List ModuleRecord → List ModuleRecord
  | [] => []
  | m :: rest => forRuntime runtime m :: forRuntimeAll runtime rest

end

variable (runtime : String) (m : ModuleRecord)

theorem forRuntimeAll_eq_map (ms : List ModuleRecord) :
    forRuntimeAll runtime ms = ms.map (forRuntime runtime) := by
  induction ms with
  | nil => rfl
  | cons m ms ih => rw [forRuntimeAll, ih, List.map_cons]

@[simp] theorem fileName_forRuntime : (m.forRuntime runtime).fileName = m.fileName := by
  cases m; rfl

@[simp] theorem kind_forRuntime : (m.forRuntime runtime).kind = m.kind := by
  cases m; rfl

@[simp] theorem reasons_forRuntime : (m.forRuntime runtime).reasons = m.reasons := by
  cases m; rfl

@[simp] theorem resource_forRuntime : (m.forRuntime runtime).resource = m.resource := by
  cases m; rfl

@[simp] theorem usedExports_forRuntime :
    (m.forRuntime runtime).usedExports = m.usedExports.forRuntime runtime := by
  cases m; rfl

@[simp] theorem modules_forRuntime :
    (m.forRuntime runtime).modules = m.modules.map (forRuntime runtime) := by
  cases m
  exact forRuntimeAll_eq_map runtime _

theorem children_carried_forRuntime :
    carried.children (m.forRuntime runtime) = (carried.children m).map (forRuntime runtime) := by
  show (if (m.forRuntime runtime).isWrapper then (m.forRuntime runtime).modules else []) =
    (if m.isWrapper then m.modules else []).map (forRuntime runtime)
  rw [isWrapper, kind_forRuntime, modules_forRuntime, isWrapper]
  split <;> rfl

@[simp] theorem isSource_forRuntime : (m.forRuntime runtime).isSource = m.isSource := by
  rw [isSource, kind_forRuntime, fileName_forRuntime, isSource]

@[simp] theorem sourcePath_forRuntime (context : Files.Path) :
    (m.forRuntime runtime).sourcePath context = m.sourcePath context := by
  rw [sourcePath, resource_forRuntime, fileName_forRuntime, sourcePath]

end ModuleRecord

namespace ChunkRecord

/-- The chunk without the entries of other runtimes. -/
def forRuntime (runtime : String) (c : ChunkRecord) : ChunkRecord :=
  { c with modules := c.modules.map (ModuleRecord.forRuntime runtime) }

variable (runtime : String) (c : ChunkRecord)

theorem allModules_forRuntime :
    (c.forRuntime runtime).allModules = c.allModules.map (ModuleRecord.forRuntime runtime) :=
  Unfolding.walk_map (ModuleRecord.modules_forRuntime runtime) c.modules

theorem carried_forRuntime :
    (c.forRuntime runtime).carried = c.carried.map (ModuleRecord.forRuntime runtime) :=
  Unfolding.walk_map (ModuleRecord.children_carried_forRuntime runtime) c.modules

theorem locations_forRuntime : (c.forRuntime runtime).locations = c.locations := by
  rw [locations, forRuntime, List.flatMap_map, locations]
  simp only [ModuleRecord.reasons_forRuntime]

end ChunkRecord

namespace BuildStats

/-- The build without the entries of other runtimes. -/
def forRuntime (runtime : String) (s : BuildStats) : BuildStats :=
  { s with chunks := s.chunks.map (ChunkRecord.forRuntime runtime) }

/-- `s.AgreesOn runtime s'`: the two builds differ at most in the entries of other runtimes. -/
def AgreesOn (runtime : String) (s s' : BuildStats) : Prop :=
  s.forRuntime runtime = s'.forRuntime runtime

theorem AgreesOn.runtimeUnder_eq {runtime : String} {s s' : BuildStats}
    (h : s.AgreesOn runtime s') (c : Config) : s'.runtimeUnder c = s.runtimeUnder c := by
  have hruntime :
      (s'.forRuntime runtime).runtimeUnder c = (s.forRuntime runtime).runtimeUnder c := by
    rw [show s.forRuntime runtime = s'.forRuntime runtime from h]
  exact hruntime

/-! ### What is read of a build -/

section

variable (runtime : String)

/-- Modules that are taken from chunks one by one can be changed before or after. -/
theorem flatMap_forRuntime {f : ChunkRecord → List ModuleRecord}
    (h : ∀ c, f (c.forRuntime runtime) = (f c).map (ModuleRecord.forRuntime runtime))
    (cs : List ChunkRecord) : (cs.map (ChunkRecord.forRuntime runtime)).flatMap f =
      (cs.flatMap f).map (ModuleRecord.forRuntime runtime) := by
  rw [List.flatMap_map, List.map_flatMap]
  simp only [h]

variable (s : BuildStats)

theorem namedModules_forRuntime :
    (s.forRuntime runtime).namedModules = s.namedModules.map (ModuleRecord.forRuntime runtime) := by
  rw [namedModules, forRuntime,
    flatMap_forRuntime runtime (ChunkRecord.allModules_forRuntime runtime), List.filter_map,
    namedModules]
  simp only [Function.comp_def, ModuleRecord.fileName_forRuntime]

theorem usageRecords_forRuntime :
    (s.forRuntime runtime).usageRecords = s.usageRecords.mapValues (Json.forRuntime runtime) := by
  rw [usageRecords, namedModules_forRuntime, usageRecords, OrderedMap.mapValues_ofListFirst,
    List.map_map, List.map_map]
  simp only [Function.comp_def, ModuleRecord.fileName_forRuntime,
    ModuleRecord.usedExports_forRuntime]

theorem keptFiles_forRuntime (matcher : ChunkMatcher) :
    (s.forRuntime runtime).keptFiles matcher = s.keptFiles matcher := by
  have hchunks : (s.forRuntime runtime).chunks.filter (fun c => matcher.accepts c.name) =
      (s.chunks.filter fun c => matcher.accepts c.name).map (ChunkRecord.forRuntime runtime) :=
    List.filter_map
  rw [keptFiles, hchunks, flatMap_forRuntime runtime (ChunkRecord.allModules_forRuntime runtime),
    List.map_map, keptFiles]
  simp only [Function.comp_def, ModuleRecord.fileName_forRuntime]

/-- For its runtime the oracle gives the same readings. -/
theorem usageOracle_forRuntime (matcher : ChunkMatcher) (f : String) :
    (s.forRuntime runtime).usageOracle matcher f (some runtime) =
      s.usageOracle matcher f (some runtime) := by
  have hrecords : ∀ records : OrderedMap String Json,
      UsageOracle.ofRecords records f (some runtime) =
        ((records.lookup? f).map fun record =>
          UsageOracle.readRecord record (some runtime)).getD .unknown := by
    intro records
    rw [UsageOracle.ofRecords]
    cases records.lookup? f <;> rfl
  rw [usageOracle, usageOracle, keptFiles_forRuntime, usageRecords_forRuntime, UsageOracle.force,
    UsageOracle.force, hrecords, hrecords, OrderedMap.lookup?_mapValues, Option.map_map]
  simp only [Function.comp_def, UsageOracle.readRecord_forRuntime]

theorem sources_forRuntime :
    (s.forRuntime runtime).sources = s.sources.mapValues (ModuleRecord.forRuntime runtime) := by
  rw [sources, forRuntime, flatMap_forRuntime runtime (ChunkRecord.carried_forRuntime runtime),
    List.filter_map, sources, OrderedMap.mapValues_ofListFirst, List.map_map, List.map_map]
  simp only [Function.comp_def, ModuleRecord.isSource_forRuntime, ModuleRecord.fileName_forRuntime]

end

end BuildStats

end Stats

/-! ### The analysis -/

namespace Prepared

variable (p : Prepared) (chunk : String) (runtime : String)

mutual

/-- Of what a record says about usage, assembling reads nothing. -/
theorem module_forRuntime (wrapper : Option String) :
    ∀ r, p.module chunk wrapper (ModuleRecord.forRuntime runtime r) = p.module chunk wrapper r
  | ⟨id, kind, fileName, resource, reasons, usedExports, modules⟩ => by
    rw [ModuleRecord.forRuntime, module, module, modules_forRuntime (some fileName) modules]
    rfl

theorem modules_forRuntime (wrapper : Option String) :
    ∀ rs, p.modules chunk wrapper (ModuleRecord.forRuntimeAll runtime rs) =
      p.modules chunk wrapper rs
  | [] => rfl
  | r :: rs => by
    rw [ModuleRecord.forRuntimeAll, modules, module_forRuntime wrapper r,
      modules_forRuntime wrapper rs, modules]

end

theorem chunks_forRuntime (s : BuildStats) : p.chunks (s.forRuntime runtime) = p.chunks s := by
  have hchunk : p.chunk ∘ ChunkRecord.forRuntime runtime = p.chunk := by
    funext c
    -- the lemma about modules speaks of the mutual recursion, and the chunk of a mapped list
    have hmodules := p.modules_forRuntime c.key runtime none c.modules
    rw [ModuleRecord.forRuntimeAll_eq_map] at hmodules
    have hmade : ∀ ms, (c.forRuntime runtime).made p.sizes p.markers ms =
        c.made p.sizes p.markers ms := by
      intro ms
      rw [ChunkRecord.made, ChunkRecord.locations_forRuntime]
      rfl
    rw [Function.comp_apply, Prepared.chunk, Prepared.chunk, ← hmodules]
    simp only [hmade]
    rfl
  rw [chunks, BuildStats.forRuntime, List.mapM_map, hchunk, chunks]

end Prepared

section

variable (lib : Libraries) (disk : Files.Disk) (s : BuildStats) (c : Config)
  (sizes : Sizes.Report)

/-- The sources are analysed under the same readings. -/
theorem prepared_forRuntime (matcher : ChunkMatcher) :
    (assembler lib disk (s.forRuntime (s.runtimeUnder c)) c sizes matcher).prepared
        (s.forRuntime (s.runtimeUnder c)) =
      (assembler lib disk s c sizes matcher).prepared s := by
  have hruntime : (s.forRuntime (s.runtimeUnder c)).runtimeUnder c = s.runtimeUnder c := rfl
  have hcontext : (s.forRuntime (s.runtimeUnder c)).contextUnder c = s.contextUnder c := rfl
  rw [Assembler.prepared, Assembler.prepared, BuildStats.sources_forRuntime,
    OrderedMap.mapValues_mapValues]
  simp only [assembler, Function.comp_def, ModuleRecord.sourcePath_forRuntime,
    ModuleRecord.fileName_forRuntime, hruntime, hcontext, BuildStats.usageOracle_forRuntime]

/-- The analysis reads the entries of its runtime only. -/
theorem analyzeBuild_forRuntime (matcher? : Option ChunkMatcher) :
    analyzeBuild lib disk (s.forRuntime (s.runtimeUnder c)) c sizes matcher? =
      analyzeBuild lib disk s c sizes matcher? := by
  have hassemble : ∀ matcher, assemble lib disk (s.forRuntime (s.runtimeUnder c)) c sizes matcher =
      assemble lib disk s c sizes matcher := by
    intro matcher
    rw [assemble_eq, prepared_forRuntime, Prepared.chunks_forRuntime, assemble_eq]
  -- besides what is assembled only the runtime and the context are read, and these stay
  unfold analyzeBuild
  simp only [hassemble]
  rfl

/-- **Other runtimes.** Let two builds differ at most in what their records say of other runtimes
    than the one that is analysed. Then their reports are equal, or both analyses fail with the same
    error. The readings of all files are equal as well, whichever chunks are kept whole; and a file
    whose first record is keyed by runtimes and does not name this one reads as unknown. -/
theorem analyzeBuild_of_agreesOn {s s' : BuildStats} {c : Config}
    (h : s.AgreesOn (s.runtimeUnder c) s') (lib : Libraries) (disk : Files.Disk)
    (sizes : Sizes.Report) (matcher? : Option ChunkMatcher) :
    analyzeBuild lib disk s c sizes matcher? = analyzeBuild lib disk s' c sizes matcher? ∧
    ∀ matcher f,
      s.usageOracle matcher f (some (s.runtimeUnder c)) =
        s'.usageOracle matcher f (some (s'.runtimeUnder c)) ∧
      ∀ first members, s.namedModules.find? (fun r => r.fileName = f) = some first →
        first.usedExports = .obj members → Json.entryOf (s.runtimeUnder c) members = none →
        f ∉ s.keptFiles matcher →
          s.usageOracle matcher f (some (s.runtimeUnder c)) = .unknown := by
  have hruntime := h.runtimeUnder_eq c
  refine ⟨?_, fun matcher f => ⟨?_, ?_⟩⟩
  · rw [← analyzeBuild_forRuntime lib disk s, h, ← hruntime, analyzeBuild_forRuntime lib disk s']
  · rw [← s.usageOracle_forRuntime, h, hruntime, s'.usageOracle_forRuntime]
  · intro first members hfirst hmembers hnone hkept
    rw [BuildStats.usageOracle_eq_readRecord hkept hfirst, hmembers, UsageOracle.readRecord_obj,
      hnone]
    rfl

end

/-- One chunk with two files that are recorded by runtime: of `a.js` the client uses `x`, and of
    `b.js` nothing is recorded for the client. What is recorded for the server is left open. -/
def recordedByRuntime (server : Json) : BuildStats where
  runtime := none
  context := none
  chunks := [⟨none, some "main", none, true, [
    ⟨none, .normal, "a.js", none, [], .obj [("server", server), ("client", .arr [.str "x"])], []⟩,
    ⟨none, .normal, "b.js", none, [], .obj [("server", server)], []⟩]⟩]

/-- Whether the server uses everything or nothing, the client's report is the same: `y` is dead in
    the one file and both exports are in the other. -/
theorem analyzeBuild_recordedByRuntime :
    (recordedByRuntime (.bool true)).AgreesOn "client" (recordedByRuntime (.bool false)) ∧
    ∃ report,
      analyzeBuild .plain oneSourceDisk (recordedByRuntime (.bool true)) .standard .empty none =
        .ok report ∧
      analyzeBuild .plain oneSourceDisk (recordedByRuntime (.bool false)) .standard .empty none =
        .ok report ∧
      (report.chunks.flatMap Chunk.modules).map Module.deadExports = [["y"], ["x", "y"]] := by
  have hagree : (recordedByRuntime (.bool true)).AgreesOn "client"
      (recordedByRuntime (.bool false)) := rfl
  obtain ⟨report, hreport, hdead⟩ := exists_ok_of_any
    (x := analyzeBuild .plain oneSourceDisk (recordedByRuntime (.bool true)) .standard .empty none)
    (p := fun report => (report.chunks.flatMap Chunk.modules).map Module.deadExports ==
      [["y"], ["x", "y"]]) (by decide +kernel)
  have hsame :=
    (analyzeBuild_of_agreesOn (c := .standard) hagree .plain oneSourceDisk .empty none).1
  exact ⟨hagree, report, hreport, hsame ▸ hreport, eq_of_beq hdead⟩

end BundleGraph
