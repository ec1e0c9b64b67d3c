import BundleGraph.Proofs.Assembly.Usage
import BundleGraph.Proofs.Graph.Relabel

/-! # Chunks that are kept whole

    Settings can name chunks whose exports all count as used. That empties the
    lists of dead exports of the files in these chunks, wherever the files stand,
    and changes nothing else: not another file, not a size, not a node or a link,
    and not whether the analysis fails or how (`analyzeBuild_spare`).

    The two analyses are followed side by side, from the entries through the
    oracle, the analyses of the sources and the assembly to the graph.
-/

namespace BundleGraph

open Stats

/-! ### Entries -/

namespace ChunkMatcher

variable (lib : Libraries)

/-- `Compiles lib entry`: the entry is a name, or what follows its mark is a pattern. -/
def Compiles (entry : String) : Prop :=
  Text.beginsWith patternMark entry = true → ∃ finds, lib.pattern (patternText entry) = .ok finds

/-- Whether a name is the entry, or the entry is marked and its pattern is found in the name. -/
def entryFinds (name entry : String) : Bool :=
  if Text.beginsWith patternMark entry then
    match lib.pattern (patternText entry) with
    | .ok finds => finds name
    | .error _ => false
  else entry = name

/-- Whether one of the entries finds the name of a chunk; a chunk without a name is not found. -/
def found (entries : List String) (name : Option String) : Bool :=
  match name with
  | some n => n ≠ "" && entries.any (entryFinds lib n)
  | none => false

variable {lib}

/-- An entry adds the chunks that it finds. -/
theorem exists_addEntry (m : ChunkMatcher) {entry : String} (h : Compiles lib entry) :
    ∃ m', addEntry lib m entry = .ok m' ∧
      ∀ name, m'.accepts name = (m.accepts name || found lib [entry] name) := by
  by_cases hmark : Text.beginsWith patternMark entry = true
  · obtain ⟨finds, hfinds⟩ := h hmark
    refine ⟨{ m with patterns := m.patterns ++ [finds] }, ?_, fun name => ?_⟩
    · rw [addEntry, if_pos hmark, hfinds]
      rfl
    · cases name with
      | none => rfl
      | some n =>
        simp [accepts, found, entryFinds, hmark, hfinds, Bool.and_or_distrib_left, Bool.or_assoc]
  · refine ⟨{ m with names := m.names ++ [entry] }, if_neg hmark, fun name => ?_⟩
    cases name with
    | none => rfl
    | some n =>
      have hfound : found lib [entry] (some n) = (n ≠ "" && n = entry) := by
        simp [found, entryFinds, hmark, eq_comm]
      have hnames : (m.names ++ [entry]).contains n = (m.names.contains n || n = entry) := by
        simp
      show (n ≠ "" && ((m.names ++ [entry]).contains n || _)) =
        ((n ≠ "" && (m.names.contains n || _)) || found lib [entry] (some n))
      rw [hfound, hnames, ← Bool.and_or_distrib_left, Bool.or_right_comm]

theorem found_cons (entry : String) (entries : List String) (name : Option String) :
    found lib (entry :: entries) name = (found lib [entry] name || found lib entries name) := by
  cases name with
  | none => rfl
  | some n => simp [found, Bool.and_or_distrib_left]

/-- A matcher of entries accepts the chunks that an entry finds. -/
theorem exists_ofEntries {entries : List String} (h : ∀ entry ∈ entries, Compiles lib entry) :
    ∃ m, ofEntries lib entries = .ok m ∧ ∀ name, m.accepts name = found lib entries name := by
  -- the entries before have left a matcher that the others are added to
  have run : ∀ m : ChunkMatcher, ∃ m', entries.foldlM (addEntry lib) m = .ok m' ∧
      ∀ name, m'.accepts name = (m.accepts name || found lib entries name) := by
    induction entries with
    | nil =>
      intro m
      refine ⟨m, rfl, fun name => ?_⟩
      cases name <;> simp [found]
    | cons entry entries ih =>
      intro m
      obtain ⟨m₁, h₁, haccepts₁⟩ := m.exists_addEntry (h entry List.mem_cons_self)
      obtain ⟨m', hm', haccepts⟩ := ih (fun e he => h e (List.mem_cons_of_mem _ he)) m₁
      refine ⟨m', by rw [List.foldlM_cons, h₁, ok_bind, hm'], fun name => ?_⟩
      rw [haccepts, haccepts₁, found_cons entry entries, Bool.or_assoc]
  obtain ⟨m, hm, haccepts⟩ := run nothing
  refine ⟨m, hm, fun name => ?_⟩
  rw [haccepts]
  cases name <;> simp [nothing, accepts]

end ChunkMatcher

/-- The names of all modules, at any depth, in the chunks that an entry finds. -/
def Stats.BuildStats.filesFoundBy (lib : Libraries) (s : BuildStats) (entries : List String) :
    List String :=
  ((s.chunks.filter fun c => ChunkMatcher.found lib entries c.name).flatMap
    ChunkRecord.allModules).map ModuleRecord.fileName

theorem Stats.BuildStats.mem_keptFiles_iff {lib : Libraries} {s : BuildStats} {m : ChunkMatcher}
    {entries : List String} (h : ∀ name, m.accepts name = ChunkMatcher.found lib entries name)
    {f : String} : f ∈ s.keptFiles m ↔ f ≠ "" ∧ f ∈ s.filesFoundBy lib entries := by
  rw [keptFiles, List.mem_filter, filesFoundBy, decide_eq_true_eq, and_comm]
  simp only [h]

/-! ### Sparing -/

namespace Module

mutual

/-- The module without dead exports if it is one of the given files, and with all modules nested in
    it changed in the same way. -/
def spare (files : List String) : Module → Module
  | ⟨id, fileName, kind, sizes, exports, deadExports, isCommonJS, subModules, reasons⟩ =>
    ⟨id, fileName, kind, sizes, exports, if fileName ∈ files then [] else deadExports, isCommonJS,
      spareAll files subModules, reasons⟩

/-- The modules without the dead exports of the given files. -/
def spareAll (files : List String) : List Module → List Module
  | [] => []
  | m :: rest => spare files m :: spareAll files rest

end

theorem spareAll_eq_map (files : List String) (ms : List Module) :
    spareAll files ms = ms.map (spare files) := by
  induction ms with
  | nil => rfl
  | cons m ms ih => rw [spareAll, ih, List.map_cons]

/-- Sparing is a change that the graph does not read. -/
def sparing (files : List String) : Relabelling where
  apply := spare files
  fileName_apply m := by cases m; rfl
  kind_apply m := by cases m; rfl
  reasons_apply m := by cases m; rfl
  subModules_apply m := by
    cases m
    exact spareAll_eq_map files _

end Module

/-- The report without the dead exports of the given files. -/
def BuildReport.spare (files : List String) (r : BuildReport) : BuildReport where
  runtime := r.runtime
  chunks := r.chunks.map fun c => c.relabel (Module.sparing files)
  graph := r.graph.relabel (Module.sparing files)

/-! ### Analyses -/

open Exports

/-- What is known of the exports of a file, with no dead ones if it is one of the given files. -/
def Exports.ModuleExports.spare (files : List String) (fileName : String) (e : ModuleExports) :
    ModuleExports :=
  if fileName ∈ files then { e with deadExports := [] } else e

/-- A source is read in the same way under every reading of its usage. -/
theorem Exports.analyzeFile_allUsed (lib : Libraries) (disk : Files.Disk) (path : Files.Path)
    (u : Usage) (limit : Nat) : analyzeFile lib disk path .allUsed limit =
      (analyzeFile lib disk path u limit).map fun e => { e with deadExports := [] } := by
  rw [analyzeFile, analyzeFile]
  cases sourceText? disk path limit with
  | error e => rfl
  | ok text =>
    cases text with
    | none => rfl
    | some text =>
      rw [ok_bind, ok_bind]
      simp only [analyze, pure, Except.pure, Except.map]
      rfl

section

variable {lib : Libraries} {disk : Files.Disk} {s : BuildStats} {c : Config}
  {sizes : Sizes.Report} {matcher : ChunkMatcher} {entries : List String}

/-- A matcher that accepts nothing leaves every file to its record. -/
theorem Stats.BuildStats.usageOracle_nothing (s : BuildStats) :
    s.usageOracle .nothing = .ofRecords s.usageRecords := by
  have hnone : s.keptFiles .nothing = [] := by
    have hchunks : (s.chunks.filter fun c => ChunkMatcher.nothing.accepts c.name) = [] := by
      rw [List.filter_eq_nil_iff]
      intro c _
      cases hname : c.name <;> simp [ChunkMatcher.nothing, ChunkMatcher.accepts]
    rw [keptFiles, hchunks]
    rfl
  funext f runtime
  rw [usageOracle, hnone]
  exact if_neg List.not_mem_nil

/-- Keeping chunks whole spares their files, whatever the records say of the others. -/
theorem analyze_spare (h : ∀ name, matcher.accepts name = ChunkMatcher.found lib entries name)
    {own : ModuleRecord} (hne : own.fileName ≠ "") :
    (assembler lib disk s c sizes matcher).analyze own =
      ((assembler lib disk s c sizes .nothing).analyze own).map
        (ModuleExports.spare (s.filesFoundBy lib entries) own.fileName) := by
  show (analyzeFile lib disk _ (s.usageOracle matcher own.fileName _) _).mapError _ =
    ((analyzeFile lib disk _ (s.usageOracle .nothing own.fileName _) _).mapError _).map _
  rw [s.usageOracle_nothing, BuildStats.usageOracle, UsageOracle.force]
  by_cases hkept : own.fileName ∈ s.filesFoundBy lib entries
  · rw [if_pos ((BuildStats.mem_keptFiles_iff h).2 ⟨hne, hkept⟩),
      analyzeFile_allUsed lib disk _ (UsageOracle.ofRecords s.usageRecords own.fileName _)]
    have hspare : ModuleExports.spare (s.filesFoundBy lib entries) own.fileName =
        fun e => { e with deadExports := [] } := funext fun e => if_pos hkept
    rw [hspare]
    cases analyzeFile lib disk _ (UsageOracle.ofRecords s.usageRecords own.fileName _) _ <;> rfl
  · rw [if_neg fun hin => hkept ((BuildStats.mem_keptFiles_iff h).1 hin).2]
    have hsame : ModuleExports.spare (s.filesFoundBy lib entries) own.fileName = id :=
      funext fun e => if_neg hkept
    rw [hsame]
    cases analyzeFile lib disk _ (UsageOracle.ofRecords s.usageRecords own.fileName _) _ <;> rfl

/-- So the tables that the two builds are prepared with differ in the dead exports of these files.
    -/
theorem exportsOf_spare (h : ∀ name, matcher.accepts name = ChunkMatcher.found lib entries name)
    (kind : ModuleKind) (f : String) :
    ((assembler lib disk s c sizes matcher).prepared s).exportsOf kind f =
      (((assembler lib disk s c sizes .nothing).prepared s).exportsOf kind f).map
        (ModuleExports.spare (s.filesFoundBy lib entries) f) := by
  have hempty : (.ok .empty : Except AssemblyError ModuleExports) =
      Except.map (ModuleExports.spare (s.filesFoundBy lib entries) f) (.ok .empty) := by
    show Except.ok _ = Except.ok _
    rw [ModuleExports.spare]
    split <;> rfl
  by_cases hkind : kind = .normal
  · subst hkind
    cases hown : s.sources.lookup? f with
    | some own =>
      obtain ⟨_, hsource, rfl⟩ := BuildStats.spec_of_lookup?_sources hown
      rw [Assembler.exportsOf_prepared hown, Assembler.exportsOf_prepared hown]
      exact analyze_spare h (by simpa using (Bool.and_eq_true_iff.1 hsource).2)
    | none =>
      have hnone : ∀ a : Assembler, (a.prepared s).exportsOf .normal f = .ok .empty := by
        intro a
        rw [Prepared.exportsOf, Assembler.prepared, OrderedMap.lookup?_mapValues, hown]
        exact ite_self _
      rw [hnone, hnone, ← hempty]
  · have hother : ∀ p : Prepared, p.exportsOf kind f = .ok .empty := fun p =>
      if_neg fun h => hkind h.1
    rw [hother, hother, ← hempty]

end

/-! ### Assembly -/

namespace Prepared

/-- The second one knows the same as the first one, except that it knows of no dead exports of the
    given files. -/
structure Spares (files : List String) (p p' : Prepared) : Prop where
  exports : ∀ kind f,
    p'.exportsOf kind f = (p.exportsOf kind f).map (ModuleExports.spare files f)
  sizes : p'.sizes = p.sizes
  markers : p'.markers = p.markers

variable {files : List String} {p p' : Prepared}

theorem made_spare (r : ModuleRecord) (subModules : List Module) (e : ModuleExports)
    (sizes : SizeMetrics) :
    r.made (Module.spareAll files subModules) (e.spare files r.fileName) sizes =
      (r.made subModules e sizes).spare files := by
  rw [ModuleRecord.made, ModuleRecord.made, Module.spare, ModuleExports.spare]
  split <;> rfl

mutual

/-- A module is assembled as before, with no dead exports if it is one of the files. -/
theorem Spares.module_eq (h : Spares files p p') (chunk : String) (wrapper : Option String) :
    ∀ r, p'.module chunk wrapper r = (p.module chunk wrapper r).map (Module.spare files)
  | ⟨id, kind, fileName, resource, reasons, usedExports, modules⟩ => by
    have hheld : p'.heldBy chunk ⟨id, kind, fileName, resource, reasons, usedExports, modules⟩ =
        (p.heldBy chunk ⟨id, kind, fileName, resource, reasons, usedExports, modules⟩).map
          (Module.spareAll files) := by
      rw [heldBy, heldBy]
      split
      · exact h.modules_eq chunk (some fileName) modules
      · rfl
    rw [Prepared.module_eq, Prepared.module_eq, hheld, h.exports, h.sizes]
    apply bind_map_of_step
    intro subModules
    apply bind_map_of_step
    intro exports
    cases sizesIn p.sizes chunk (sizeNeedle kind wrapper fileName) with
    | error e => rfl
    | ok sizes => exact congrArg Except.ok (made_spare _ subModules exports sizes)

theorem Spares.modules_eq (h : Spares files p p') (chunk : String) (wrapper : Option String) :
    ∀ rs, p'.modules chunk wrapper rs = (p.modules chunk wrapper rs).map (Module.spareAll files)
  | [] => rfl
  | r :: rs => by
    rw [modules, modules, h.module_eq chunk wrapper r, h.modules_eq chunk wrapper rs]
    apply bind_map_of_step
    intro first
    apply bind_map_of_step
    intro others
    rfl

end

theorem Spares.chunks_eq (h : Spares files p p') (s : BuildStats) :
    p'.chunks s =
      (p.chunks s).map (List.map fun c => c.relabel (Module.sparing files)) := by
  apply mapM_map_of_step
  intro r
  rw [chunk, chunk, h.modules_eq r.key none r.modules, h.markers, h.sizes]
  apply bind_map_of_step
  intro ms
  rw [Module.spareAll_eq_map]
  rfl

end Prepared

/-! ### The whole analysis -/

section

variable {lib : Libraries} (disk : Files.Disk) (s : BuildStats) (c : Config)
  (sizes : Sizes.Report)

theorem assemble_spare {matcher : ChunkMatcher} {entries : List String}
    (h : ∀ name, matcher.accepts name = ChunkMatcher.found lib entries name) :
    assemble lib disk s c sizes matcher = (assemble lib disk s c sizes .nothing).map
      (List.map fun ch => ch.relabel (Module.sparing (s.filesFoundBy lib entries))) := by
  have hspares : Prepared.Spares (s.filesFoundBy lib entries)
      ((assembler lib disk s c sizes .nothing).prepared s)
      ((assembler lib disk s c sizes matcher).prepared s) :=
    ⟨exportsOf_spare h, rfl, rfl⟩
  rw [assemble_eq, assemble_eq, hspares.chunks_eq]
  cases Prepared.chunks _ s <;> rfl

/-- **Kept whole.** Let the entries be names of chunks and patterns. The analysis of a build under
    settings that keep the chunks they find whole is the analysis without them, with the lists of
    dead exports emptied for the files at any depth in these chunks, wherever such a file stands in
    the report: in every chunk and in every record of the graph. All else is the same, and the one
    fails exactly as the other does. -/
theorem analyzeBuild_spare {entries : List String}
    (h : ∀ entry ∈ entries, ChunkMatcher.Compiles lib entry) :
    analyzeBuild lib disk s { c with disableTreeShaking := entries } sizes none =
      (analyzeBuild lib disk s { c with disableTreeShaking := [] } sizes none).map
        (BuildReport.spare (s.filesFoundBy lib entries)) := by
  obtain ⟨matcher, hmatcher, haccepts⟩ := ChunkMatcher.exists_ofEntries h
  have hkept : analyzeBuild lib disk s { c with disableTreeShaking := entries } sizes none =
      analyzeBuild lib disk s c sizes (some matcher) := by
    show ((ChunkMatcher.ofEntries lib entries).mapError _ >>= _) = _
    rw [hmatcher]
    rfl
  have hplain : analyzeBuild lib disk s { c with disableTreeShaking := [] } sizes none =
      analyzeBuild lib disk s c sizes (some .nothing) := rfl
  rw [hkept, hplain]
  show (assemble lib disk s c sizes matcher >>= _) =
    Except.map _ (assemble lib disk s c sizes .nothing >>= _)
  rw [assemble_spare disk s c sizes haccepts]
  apply bind_map_of_step
  intro chunks
  rw [buildGraph_relabel]
  cases buildGraph chunks <;> rfl

end

/-- Two chunks that share a file. -/
def sharedFile : BuildStats where
  runtime := some "client"
  context := none
  chunks := [
    ⟨none, some "main", none, true, [⟨none, .normal, "a.js", none, [], .arr [.str "x"], []⟩]⟩,
    ⟨none, some "settings", none, false, [
      ⟨none, .normal, "a.js", none, [], .arr [.str "x"], []⟩,
      ⟨none, .normal, "b.js", none, [], .arr [.str "x"], []⟩]⟩]

/-- If a pattern finds the one chunk, then the file that they share is spared in both, and the file
    that only the other chunk has keeps its dead export. -/
theorem analyzeBuild_spare_sharedFile :
    (∀ entry ∈ ["help", "re:^ma"], ChunkMatcher.Compiles .plain entry) ∧
    ∃ plain,
      analyzeBuild .plain oneSourceDisk sharedFile { Config.standard with disableTreeShaking := [] }
        .empty none = .ok plain ∧
      analyzeBuild .plain oneSourceDisk sharedFile
        { Config.standard with disableTreeShaking := ["help", "re:^ma"] } .empty none =
          .ok (plain.spare ["a.js"]) ∧
      (plain.chunks.flatMap Chunk.modules).map Module.deadExports = [["y"], ["y"], ["y"]] ∧
      ((plain.spare ["a.js"]).chunks.flatMap Chunk.modules).map Module.deadExports =
        [[], [], ["y"]] := by
  have hpattern : (Libraries.plain.pattern (ChunkMatcher.patternText "re:^ma")).toOption.any
      (fun _ => true) = true := by decide +kernel
  have hcompiles : ∀ entry ∈ ["help", "re:^ma"], ChunkMatcher.Compiles .plain entry := by
    intro entry hentry hmark
    rcases List.mem_cons.1 hentry with rfl | hentry
    · exact absurd hmark (by decide +kernel)
    · obtain ⟨p, hp, _⟩ := exists_ok_of_any hpattern
      exact ⟨p, List.mem_singleton.1 hentry ▸ hp⟩
  have hfiles : sharedFile.filesFoundBy .plain ["help", "re:^ma"] = ["a.js"] := by decide +kernel
  have hdead : (analyzeBuild .plain oneSourceDisk sharedFile
      { Config.standard with disableTreeShaking := [] } .empty none).toOption.any (fun plain =>
        decide ((plain.chunks.flatMap Chunk.modules).map Module.deadExports =
          [["y"], ["y"], ["y"]]) &&
        decide (((plain.spare ["a.js"]).chunks.flatMap Chunk.modules).map Module.deadExports =
          [[], [], ["y"]])) = true := by decide +kernel
  obtain ⟨plain, hplain, hlists⟩ := exists_ok_of_any hdead
  have hkept := analyzeBuild_spare oneSourceDisk sharedFile .standard .empty hcompiles
  rw [hfiles, hplain] at hkept
  rw [Bool.and_eq_true, decide_eq_true_eq, decide_eq_true_eq] at hlists
  exact ⟨hcompiles, plain, hplain, hkept, hlists⟩

end BundleGraph
