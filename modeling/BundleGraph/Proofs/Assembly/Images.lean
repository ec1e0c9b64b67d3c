import BundleGraph.Proofs.Assembly.Usage

/-! # Records and their images

    Assembly reads a document record by record and takes the table of the sources
    that it has analysed along. This file says what that comes to for a whole
    document.

    The modules that come out are the image of the document: a record becomes a
    module with the same identifier, name, kind and reasons, and a wrapper holds
    what the records in it become (`ModuleRecord.Becomes`). A record that is no
    wrapper becomes a module that holds nothing, whatever the record holds; so
    the records that become modules at all are those that chunks carry.

    The table that is left has one entry for a name. Wherever a source of the name
    stands, its module has the exports that were found where the first of its
    records lies, and no other record of the name was analysed.
-/

namespace BundleGraph

open Stats

/-! ### Images -/

namespace Stats.ModuleRecord

/-- `r.Becomes m`: the module is the image of the record and of all that is in it. -/
inductive Becomes : ModuleRecord → Module → Prop where
  | wrapper {r : ModuleRecord} {m : Module} (kept : r.KeptBy m) (hr : r.kind = .concatenated)
      (held : List.Forall₂ Becomes r.modules m.subModules) : Becomes r m
  | single {r : ModuleRecord} {m : Module} (kept : r.KeptBy m) (hr : r.kind ≠ .concatenated)
      (held : m.subModules = []) : Becomes r m

end Stats.ModuleRecord

namespace Prepared

variable {p : Prepared} {chunk : String}

/-- What is made from a record is its image, by recursion on the record. -/
theorem Makes.becomes {r : ModuleRecord} {m : Module} (h : p.Makes chunk r m) : r.Becomes m := by
  have hheld : List.Forall₂ (p.Makes chunk) (ModuleRecord.carried.children r) m.subModules :=
    h.forall₂_children
  by_cases hr : r.kind = .concatenated
  · rw [ModuleRecord.children_carried_of_wrapper hr] at hheld
    -- the recursion needs to know that the records are in the wrapper
    have hinside := (List.forall₂_and_left _ _).2 ⟨fun x (hx : x ∈ r.modules) => hx, hheld⟩
    exact .wrapper h.keptBy hr (hinside.imp fun x _ hx =>
      have hsmaller : x ∈ r.modules := hx.1
      hx.2.becomes)
  · rw [ModuleRecord.children_carried_of_single hr, List.forall₂_nil_left_iff] at hheld
    exact .single h.keptBy hr hheld
termination_by sizeOf r
decreasing_by
  have := List.sizeOf_lt_of_mem hsmaller
  have := r.sizeOf_modules
  omega

end Prepared

/-- All modules in a chunk at any depth, in pre-order. -/
def Chunk.allModules (c : Chunk) : List Module := Module.parts.walk c.modules

/-! ### Sources -/

/-- The record that says where a source lies is the first source of its name that chunks carry. -/
theorem Stats.BuildStats.lookup?_sources_of_ne (s : BuildStats) {f : String} (hf : f ≠ "") :
    s.sources.lookup? f = (s.chunks.flatMap ChunkRecord.carried).find? fun r =>
      r.kind = .normal ∧ r.fileName = f := by
  rw [lookup?_sources, List.find?_filter]
  congr 1
  funext r
  by_cases hname : r.fileName = f
  · simp [ModuleRecord.isSource, hname, hf, beq_eq_decide]
  · simp [hname]

/-! ### Whole documents -/

section

variable {lib : Libraries} {disk : Files.Disk} {s : BuildStats} {c : Config}
  {sizes : Sizes.Report} {matcher : ChunkMatcher} {chunks : List Chunk}

/-- The modules of a build at any depth are made, one by one and in order, from the records that
    chunks carry. -/
theorem forall₂_allModules (h : assemble lib disk s c sizes matcher = .ok chunks) :
    List.Forall₂ (fun r m => ∃ key,
        ((assembler lib disk s c sizes matcher).prepared s).Makes key r m)
      (s.chunks.flatMap ChunkRecord.carried) (chunks.flatMap Chunk.allModules) :=
  List.rel_flatMap (forall₂_chunks h) fun _ _ hchunk =>
    (Prepared.forall₂_parts hchunk).imp fun _ _ hmade => ⟨_, hmade⟩

/-- A module from a source has the exports that were found where the source lies. -/
theorem exists_source_of_normal (h : assemble lib disk s c sizes matcher = .ok chunks) {m : Module}
    (hm : m ∈ chunks.flatMap Chunk.allModules) (hkind : m.kind = .normal)
    (hname : m.fileName ≠ "") :
    ∃ own, s.sources.lookup? m.fileName = some own ∧
      (assembler lib disk s c sizes matcher).analyze own =
        .ok ⟨m.isCommonJS, m.exports, m.deadExports⟩ := by
  obtain ⟨r, hr, _, hmade⟩ := exists_of_mem_right (forall₂_allModules h) hm
  have hfound : (s.sources.lookup? m.fileName).isSome = true := by
    rw [BuildStats.lookup?_sources_of_ne s hname, List.find?_isSome]
    exact ⟨r, hr, decide_eq_true ⟨hmade.kind_eq ▸ hkind, hmade.fileName_eq.symm⟩⟩
  obtain ⟨own, hown⟩ := Option.isSome_iff_exists.1 hfound
  have hexports := hmade.exports_eq
  rw [hkind, Assembler.exportsOf_prepared hown] at hexports
  exact ⟨own, hown, hexports⟩

/-- A module that is from no source that has a name says nothing of exports. -/
theorem exports_of_no_source (h : assemble lib disk s c sizes matcher = .ok chunks) {m : Module}
    (hm : m ∈ chunks.flatMap Chunk.allModules) (hnone : m.kind ≠ .normal ∨ m.fileName = "") :
    m.exports = [] ∧ m.deadExports = [] ∧ m.isCommonJS = false := by
  obtain ⟨r, _, _, hmade⟩ := exists_of_mem_right (forall₂_allModules h) hm
  have hexports := hmade.exports_eq
  rw [Prepared.exportsOf, if_neg (by tauto)] at hexports
  obtain ⟨hcommon, hexports, hdead⟩ := Exports.ModuleExports.mk.inj (Except.ok.inj hexports)
  exact ⟨hexports.symm, hdead.symm, hcommon.symm⟩

/-- The sources of a build are those of which there are modules. -/
theorem mem_sources_iff (h : assemble lib disk s c sizes matcher = .ok chunks) {f : String} :
    f ∈ s.sources.keys ↔ ∃ m ∈ chunks.flatMap Chunk.allModules,
      m.kind = .normal ∧ m.fileName ≠ "" ∧ m.fileName = f := by
  have hrecords : f ∈ s.sources.keys ↔ ∃ r ∈ s.chunks.flatMap ChunkRecord.carried,
      r.isSource = true ∧ r.fileName = f := by
    rw [BuildStats.sources, OrderedMap.keys_ofListFirst, List.mem_eraseDups, List.map_map,
      List.mem_map]
    simp only [List.mem_filter, and_assoc]
    rfl
  rw [hrecords]
  refine exists_mem_iff_of_forall₂ ?_ (forall₂_allModules h)
  intro r m hmade
  obtain ⟨_, hmade⟩ := hmade
  rw [hmade.kind_eq, hmade.fileName_eq, ModuleRecord.isSource]
  simp [and_assoc]

/-- The table that is left holds what the first records of the sources were found to export. -/
theorem exists_found (h : assemble lib disk s c sizes matcher = .ok chunks) :
    ∃ found : Analyses,
      ((assembler lib disk s c sizes matcher).chunks s).run .empty = .ok (chunks, found) ∧
      found.outcomes = s.sources.mapValues (assembler lib disk s c sizes matcher).analyze := by
  rw [assemble_eq, mapError_eq_ok_iff] at h
  exact (Assembler.agrees_chunks _ s).exists_run h

/-- **The image of a document.** A document that is assembled gives one chunk for each of its
    chunks, in order, with the images of the chunk's modules. The records that have an image are
    those that chunks carry, in the order of the document, and the modules at any depth are these
    images and no others.

    A source is analysed once, under its name. The first record of a source of that name that has
    an image says which file is read and where; what was found there stands in the table that is
    left, and all modules from sources of that name have these exports, in whatever chunk and at
    whatever depth they stand. All other modules have no exports, and no entry. An analysis of any
    other record would not be noticed: with another analyser, the same chunks and the same table
    come out if it answers alike for the first record of each name. -/
theorem assembled_images (h : assemble lib disk s c sizes matcher = .ok chunks) :
    ∃ found : Analyses,
      ((assembler lib disk s c sizes matcher).chunks s).run .empty = .ok (chunks, found) ∧
      List.Forall₂ (fun r ch => ch.id = r.key ∧
        List.Forall₂ ModuleRecord.Becomes r.modules ch.modules) s.chunks chunks ∧
      (s.chunks.flatMap ChunkRecord.carried).Sublist (s.chunks.flatMap ChunkRecord.allModules) ∧
      List.Forall₂ ModuleRecord.Becomes (s.chunks.flatMap ChunkRecord.carried)
        (chunks.flatMap Chunk.allModules) ∧
      (∀ m ∈ chunks.flatMap Chunk.allModules, m.kind = .normal → m.fileName ≠ "" →
        ∃ first, (s.chunks.flatMap ChunkRecord.carried).find?
            (fun r => r.kind = .normal ∧ r.fileName = m.fileName) = some first ∧
          Exports.analyzeFile lib disk (first.sourcePath (s.contextUnder c))
            (s.usageOracle matcher m.fileName (some (s.runtimeUnder c))) c.maxSourceBytes =
              .ok ⟨m.isCommonJS, m.exports, m.deadExports⟩ ∧
          found.lookup? m.fileName = some ⟨m.isCommonJS, m.exports, m.deadExports⟩ ∧
          ∀ n ∈ chunks.flatMap Chunk.allModules, n.kind = .normal → n.fileName = m.fileName →
            n.exports = m.exports ∧ n.deadExports = m.deadExports ∧
            n.isCommonJS = m.isCommonJS) ∧
      (∀ m ∈ chunks.flatMap Chunk.allModules, m.kind ≠ .normal ∨ m.fileName = "" →
        m.exports = [] ∧ m.deadExports = [] ∧ m.isCommonJS = false) ∧
      found.keys.Nodup ∧
      (∀ f, f ∈ found.keys ↔ ∃ m ∈ chunks.flatMap Chunk.allModules,
        m.kind = .normal ∧ m.fileName ≠ "" ∧ m.fileName = f) ∧
      ∀ a : Assembler, a.sizes = sizes → a.markers = c.markers →
        (∀ f first, s.sources.lookup? f = some first →
          a.analyze first = (assembler lib disk s c sizes matcher).analyze first) →
        (a.chunks s).run .empty = .ok (chunks, found) := by
  obtain ⟨found, hrun, htable⟩ := exists_found h
  refine ⟨found, hrun, ?chunks, ?order, ?images, ?sources,
    fun m hm hnone => exports_of_no_source h hm hnone, OrderedMap.nodup_keys _, fun f => ?keys,
    fun a hsizes hmarkers hsame => ?once⟩
  case chunks =>
    refine (forall₂_chunks h).imp fun r ch hchunk => ⟨(Prepared.chunk_eq_ok_iff.1 hchunk).1, ?_⟩
    exact (Prepared.forall₂_modules hchunk).imp fun _ _ hmade => hmade.becomes
  case order => exact List.Sublist.flatMap_right _ fun r _ => r.sublist_carried
  case images =>
    refine (forall₂_allModules h).imp fun r m hmade => ?_
    obtain ⟨_, hmade⟩ := hmade
    exact hmade.becomes
  case sources =>
    intro m hm hkind hname
    obtain ⟨first, hfirst, hanalysis⟩ := exists_source_of_normal h hm hkind hname
    have hfirstName := (BuildStats.spec_of_lookup?_sources hfirst).2.2
    have hfile := hanalysis
    rw [assembler, mapError_eq_ok_iff, hfirstName] at hfile
    refine ⟨first, ?_, hfile, ?_, fun n hn hnkind hnname => ?_⟩
    · rw [← BuildStats.lookup?_sources_of_ne s hname, hfirst]
    · have hentry : found.outcomes.lookup? m.fileName =
          some (.ok ⟨m.isCommonJS, m.exports, m.deadExports⟩) := by
        rw [htable, OrderedMap.lookup?_mapValues, hfirst, Option.map_some, hanalysis]
      rw [Analyses.outcomes, OrderedMap.lookup?_mapValues, Option.map_eq_some_iff] at hentry
      obtain ⟨e, he, hok⟩ := hentry
      rw [he, Except.ok.inj hok]
    · -- the other module was looked up under the same name, so its first record is this one
      obtain ⟨other, hother, hsame⟩ :=
        exists_source_of_normal h hn hnkind (hnname ▸ hname)
      rw [hnname, hfirst, Option.some.injEq] at hother
      rw [← hother, hanalysis] at hsame
      obtain ⟨hcommon, hexports, hdead⟩ := Exports.ModuleExports.mk.inj (Except.ok.inj hsame)
      exact ⟨hexports.symm, hdead.symm, hcommon.symm⟩
  case keys =>
    rw [← mem_sources_iff h]
    have hkeys := congrArg OrderedMap.keys htable
    rw [Analyses.outcomes, OrderedMap.keys_mapValues, OrderedMap.keys_mapValues] at hkeys
    rw [hkeys]
  case once =>
    have hprepared : a.prepared s = (assembler lib disk s c sizes matcher).prepared s :=
      Assembler.prepared_congr hsizes hmarkers hsame
    have hagrees := Assembler.agrees_chunks a s
    rw [assemble_eq, mapError_eq_ok_iff, ← hprepared] at h
    obtain ⟨found', hrun', htable'⟩ := hagrees.exists_run h
    have hfound : found' = found := by
      refine Analyses.outcomes_inj ?_
      rw [htable', htable]
      exact congrArg Prepared.table hprepared
    rw [hrun', hfound]

end

/-- A source in a wrapper, and another source of its name that lies elsewhere. -/
def twoPlaces : BuildStats where
  runtime := none
  context := none
  chunks := [
    { id := none
      name := some "main"
      debugId := none
      initial := true
      modules := [⟨some (.number 1), .concatenated, "w.js", none, [], .null,
        [⟨some (.number 2), .normal, "a.js", some "one.js", [⟨some "b.js", "", none, none⟩],
          .bool true, []⟩]⟩] },
    { id := none
      name := some "later"
      debugId := none
      initial := false
      modules := [⟨some (.number 3), .normal, "a.js", some "two.js", [], .bool true, []⟩,
        ⟨some (.name "4"), .external, "react", none, [], .null, []⟩] }]

/-- A disk on which the file of one name exports `x` and all others export `y`. -/
def twoPlacesDisk : Files.Disk :=
  ⟨fun path => .ok (.file (if path.names = ["one.js"] then "export let x" else
    "export let y").toUTF8), fun _ => none⟩

/-- There the source in the wrapper stands first, so both modules of the name export `x`. -/
theorem first_place_counts :
    ∃ chunks, assemble .plain twoPlacesDisk twoPlaces .standard .empty .nothing = .ok chunks ∧
      List.Forall₂ ModuleRecord.Becomes (twoPlaces.chunks.flatMap ChunkRecord.carried)
        (chunks.flatMap Chunk.allModules) ∧
      (∀ m ∈ chunks.flatMap Chunk.allModules, m.kind = .normal → m.fileName = "a.js" →
        m.exports = ["x"]) ∧
      ∃ m ∈ chunks.flatMap Chunk.allModules, m.kind = .normal ∧ m.fileName = "a.js" ∧
        ∃ first, (twoPlaces.chunks.flatMap ChunkRecord.carried).find?
            (fun r => r.kind = .normal ∧ r.fileName = m.fileName) = some first ∧
          first.resource = some "one.js" := by
  have hassembled : (assemble .plain twoPlacesDisk twoPlaces .standard .empty .nothing).toOption.any
      (fun chunks => (chunks.flatMap Chunk.allModules).any fun m =>
        m.kind == .normal && m.fileName == "a.js" && m.exports == ["x"]) = true := by
    decide +kernel
  have hplace : ((twoPlaces.chunks.flatMap ChunkRecord.carried).find?
      fun r => r.kind = .normal ∧ r.fileName = "a.js").all
        (fun first => first.resource == some "one.js") = true := by decide +kernel
  obtain ⟨chunks, hchunks, hany⟩ := exists_ok_of_any hassembled
  obtain ⟨m, hm, hfacts⟩ := List.any_eq_true.1 hany
  simp only [Bool.and_eq_true, beq_iff_eq] at hfacts
  obtain ⟨⟨hkind, hname⟩, hexports⟩ := hfacts
  obtain ⟨_, _, _, _, himages, hsources, _⟩ := assembled_images hchunks
  obtain ⟨first, hfirst, _, _, hsame⟩ := hsources m hm hkind (by rw [hname]; decide)
  refine ⟨chunks, hchunks, himages, fun n hn hnkind hnname => ?_, m, hm, hkind, hname, first,
    hfirst, ?_⟩
  · rw [(hsame n hn hnkind (hnname.trans hname.symm)).1, hexports]
  · rw [hname] at hfirst
    rw [hfirst, Option.all_some, beq_iff_eq] at hplace
    exact hplace

end BundleGraph
