import BundleGraph.Proofs.Assembly.Analyses

/-! # Which record says what is used

    Two records of a file count, and they need not be one. The first source of
    the name that chunks carry says where the file lies. The first record of the
    name at all, whatever its kind and wherever it is nested, says which of its
    exports are used; so a wrapper that has the name of a file in it speaks for
    that file (`analysis_of_normal`).
-/

namespace BundleGraph

open Stats

/-! ### Records of a name -/

/-- What a chunk carries is in it, in the same order. -/
theorem Stats.ChunkRecord.sublist_carried (c : ChunkRecord) : c.carried.Sublist c.allModules := by
  apply Unfolding.sublist_walk
  intro r
  by_cases hr : r.kind = .concatenated
  · rw [ModuleRecord.children_carried_of_wrapper hr]
    exact List.Sublist.refl r.modules
  · rw [ModuleRecord.children_carried_of_single hr]
    exact List.nil_sublist r.modules

theorem Stats.ChunkRecord.mem_allModules_of_carried {c : ChunkRecord} {r : ModuleRecord}
    (h : r ∈ c.carried) : r ∈ c.allModules := c.sublist_carried.subset h

namespace Stats.BuildStats

variable {s : BuildStats}

theorem lookup?_usageRecords (s : BuildStats) (f : String) : s.usageRecords.lookup? f =
    (s.namedModules.find? fun r => r.fileName = f).map ModuleRecord.usedExports := by
  rw [usageRecords, OrderedMap.lookup?_ofListFirst, OrderedMap.find_map_eq]

theorem lookup?_sources (s : BuildStats) (f : String) : s.sources.lookup? f =
    ((s.chunks.flatMap ChunkRecord.carried).filter ModuleRecord.isSource).find?
      fun r => r.fileName = f := by
  rw [sources, OrderedMap.lookup?_ofListFirst,
    OrderedMap.find_map_eq ModuleRecord.fileName (fun r => r), Option.map_id']

/-- The record that says where a source lies is that of a source of this name. -/
theorem spec_of_lookup?_sources {f : String} {own : ModuleRecord}
    (h : s.sources.lookup? f = some own) :
    own ∈ s.chunks.flatMap ChunkRecord.carried ∧ own.isSource = true ∧ own.fileName = f := by
  rw [lookup?_sources] at h
  obtain ⟨hcarried, hsource⟩ := List.mem_filter.1 (List.mem_of_find?_eq_some h)
  exact ⟨hcarried, hsource, by simpa using List.find?_some h⟩

/-- A file that a chunk carries as a source has a first source and a first record. -/
theorem exists_records {c : ChunkRecord} (hc : c ∈ s.chunks) {r : ModuleRecord}
    (hr : r ∈ c.carried) (hsource : r.isSource = true) :
    ∃ own first, s.sources.lookup? r.fileName = some own ∧
      s.namedModules.find? (fun x => x.fileName = r.fileName) = some first := by
  have hname : r.fileName ≠ "" := by
    have := (Bool.and_eq_true_iff.1 hsource).2
    simpa using this
  have hown : (s.sources.lookup? r.fileName).isSome = true := by
    rw [lookup?_sources, List.find?_isSome]
    exact ⟨r, List.mem_filter.2 ⟨List.mem_flatMap.2 ⟨c, hc, hr⟩, hsource⟩, decide_eq_true rfl⟩
  have hfirst : (s.namedModules.find? fun x => x.fileName = r.fileName).isSome = true := by
    rw [List.find?_isSome]
    have hin := ChunkRecord.mem_allModules_of_carried hr
    exact ⟨r, List.mem_filter.2 ⟨List.mem_flatMap.2 ⟨c, hc, hin⟩, decide_eq_true hname⟩,
      decide_eq_true rfl⟩
  obtain ⟨own, hown⟩ := Option.isSome_iff_exists.1 hown
  obtain ⟨first, hfirst⟩ := Option.isSome_iff_exists.1 hfirst
  exact ⟨own, first, hown, hfirst⟩

/-- The reading of a file is that of its first record, unless the file is kept whole. -/
theorem usageOracle_eq_readRecord {matcher : ChunkMatcher} {f : String} {first : ModuleRecord}
    (hkept : f ∉ s.keptFiles matcher)
    (hfirst : s.namedModules.find? (fun r => r.fileName = f) = some first)
    (runtime : Option String) :
    s.usageOracle matcher f runtime = UsageOracle.readRecord first.usedExports runtime := by
  rw [usageOracle, UsageOracle.force, if_neg hkept, UsageOracle.ofRecords, lookup?_usageRecords,
    hfirst]
  rfl

end Stats.BuildStats

/-! ### Analyses -/

theorem Usage.deadExports_nil (u : Usage) : u.deadExports [] = [] := by
  cases u <;> rfl

/-- Dead are the exports that the reading leaves dead, whether the source could be read or not. -/
theorem Exports.deadExports_of_analyzeFile {lib : Libraries} {disk : Files.Disk}
    {path : Files.Path} {u : Usage} {limit : Nat} {e : ModuleExports}
    (h : analyzeFile lib disk path u limit = .ok e) :
    e.deadExports = u.deadExports e.exports := by
  rw [analyzeFile, bind_eq_ok_iff] at h
  obtain ⟨text, _, h⟩ := h
  cases text with
  | none =>
    simp only [pure, Except.pure, Except.ok.injEq] at h
    rw [← h]
    exact u.deadExports_nil.symm
  | some text =>
    simp only [pure, Except.pure, Except.ok.injEq] at h
    rw [← h, analyze]

/-- What is known of a source was found where its first record says that it lies. -/
theorem Assembler.exportsOf_prepared {a : Assembler} {s : BuildStats} {f : String}
    {own : ModuleRecord} (h : s.sources.lookup? f = some own) :
    (a.prepared s).exportsOf .normal f = a.analyze own := by
  obtain ⟨_, hsource, hname⟩ := BuildStats.spec_of_lookup?_sources h
  have hne : f ≠ "" := by
    rw [← hname]
    simpa using (Bool.and_eq_true_iff.1 hsource).2
  rw [Prepared.exportsOf, if_pos ⟨rfl, hne⟩, prepared, OrderedMap.lookup?_mapValues, h]
  rfl

/-- **Two records.** In a build that is assembled, what a module from a source says of its exports
    was found by analysing the file where its first source lies, under the reading of the first
    record of its name, of any kind and at any depth; unless the file is kept whole. -/
theorem analysis_of_normal {lib : Libraries} {disk : Files.Disk} {s : BuildStats} {c : Config}
    {sizes : Sizes.Report} {matcher : ChunkMatcher} {chunks : List Chunk}
    (h : assemble lib disk s c sizes matcher = .ok chunks) {ch : Chunk} (hch : ch ∈ chunks)
    {m : Module} (hm : m ∈ Module.parts.walk ch.modules) (hkind : m.kind = .normal)
    (hname : m.fileName ≠ "") (hkept : m.fileName ∉ s.keptFiles matcher) :
    ∃ own first, s.sources.lookup? m.fileName = some own ∧
      s.namedModules.find? (fun r => r.fileName = m.fileName) = some first ∧
      Exports.analyzeFile lib disk (own.sourcePath (s.contextUnder c))
        (UsageOracle.readRecord first.usedExports (some (s.runtimeUnder c))) c.maxSourceBytes =
          .ok ⟨m.isCommonJS, m.exports, m.deadExports⟩ ∧
      m.deadExports = (UsageOracle.readRecord first.usedExports
        (some (s.runtimeUnder c))).deadExports m.exports := by
  obtain ⟨cr, hcr, hchunk⟩ := exists_of_mem_right (forall₂_chunks h) hch
  obtain ⟨r, hr, hmade⟩ := exists_of_mem_right (Prepared.forall₂_parts hchunk) hm
  have hsource : r.isSource = true := by
    rw [ModuleRecord.isSource, ← hmade.kind_eq, ← hmade.fileName_eq, hkind]
    simpa using hname
  obtain ⟨own, first, hown, hfirst⟩ := BuildStats.exists_records hcr hr hsource
  rw [← hmade.fileName_eq] at hown hfirst
  -- the analysis is made once for the name, at the place of its first source
  have hanalysis := hmade.exports_eq
  rw [hkind, Assembler.exportsOf_prepared hown, assembler, mapError_eq_ok_iff] at hanalysis
  have hownName := (BuildStats.spec_of_lookup?_sources hown).2.2
  rw [hownName, BuildStats.usageOracle_eq_readRecord hkept hfirst] at hanalysis
  exact ⟨own, first, hown, hfirst, hanalysis, Exports.deadExports_of_analyzeFile hanalysis⟩

/-- A source inside a wrapper that has its name. The source is recorded as using `x` only, the
    wrapper as using everything. -/
def namesakes : BuildStats where
  runtime := some "client"
  context := none
  chunks := [{
    id := none
    name := some "main"
    debugId := none
    initial := true
    modules := [⟨none, .concatenated, "a.js", none, [], .bool true,
      [⟨none, .normal, "a.js", none, [], .arr [.str "x"], []⟩]⟩] }]

/-- A disk on which every path leads to one source with two exports. -/
def oneSourceDisk : Files.Disk :=
  ⟨fun _ => .ok (.file "export let x, y".toUTF8), fun _ => none⟩

/-- There the wrapper speaks for the source: under the source's own record `y` would be dead, but no
    export is. -/
theorem wrapper_speaks_for_namesake :
    ∃ chunks, assemble .plain oneSourceDisk namesakes .standard .empty .nothing = .ok chunks ∧
      ∃ ch ∈ chunks, ∃ m ∈ Module.parts.walk ch.modules,
        m.kind = .normal ∧ m.fileName = "a.js" ∧ m.exports = ["x", "y"] ∧
        ∃ own first, namesakes.sources.lookup? "a.js" = some own ∧
          namesakes.namedModules.find? (fun r => r.fileName = "a.js") = some first ∧
          own.kind = .normal ∧ first.kind = .concatenated ∧
          m.deadExports = (UsageOracle.readRecord first.usedExports
            (some "client")).deadExports m.exports ∧
          m.deadExports = [] ∧
          (UsageOracle.readRecord own.usedExports (some "client")).deadExports m.exports =
            ["y"] := by
  have hassembled : (assemble .plain oneSourceDisk namesakes .standard .empty .nothing).toOption.any
      (fun chunks => (chunks.flatMap fun ch => Module.parts.walk ch.modules).any fun m =>
        m.kind == .normal && m.fileName == "a.js" && m.exports == ["x", "y"] &&
          m.deadExports == []) = true := by decide +kernel
  have howned : (namesakes.sources.lookup? "a.js").all (fun own => own.kind == .normal &&
      (UsageOracle.readRecord own.usedExports (some "client")).deadExports ["x", "y"] == ["y"])
        = true := by decide +kernel
  have hspoken : (namesakes.namedModules.find? fun r => r.fileName = "a.js").all
      (fun first => first.kind == .concatenated) = true := by decide +kernel
  obtain ⟨chunks, hchunks, hany⟩ := exists_ok_of_any hassembled
  obtain ⟨m, hm, hfacts⟩ := List.any_eq_true.1 hany
  obtain ⟨ch, hch, hm⟩ := List.mem_flatMap.1 hm
  simp only [Bool.and_eq_true, beq_iff_eq] at hfacts
  obtain ⟨⟨⟨hkind, hname⟩, hexports⟩, hdead⟩ := hfacts
  obtain ⟨own, first, hown, hfirst, _, hreading⟩ := analysis_of_normal hchunks hch hm hkind
    (by rw [hname]; decide) (by rw [hname]; decide)
  rw [hname] at hown hfirst
  rw [hown, Option.all_some, Bool.and_eq_true, beq_iff_eq, beq_iff_eq] at howned
  rw [hfirst, Option.all_some, beq_iff_eq] at hspoken
  exact ⟨chunks, hchunks, ch, hch, m, hm, hkind, hname, hexports, own, first, hown, hfirst,
    howned.1, hspoken, hreading, hdead, by rw [hexports]; exact howned.2⟩

end BundleGraph
