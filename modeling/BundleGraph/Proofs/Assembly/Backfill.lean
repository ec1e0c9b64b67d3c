import BundleGraph.Proofs.Assembly.Analyses
import BundleGraph.Proofs.Sizes.Lookup

/-! # Sizes from a report

    A module at the top level of a chunk is looked for in the size report by its
    file name, and the first group whose path contains the name is taken for it.
    The group of the file itself has the path `./` and the name, so it is always
    among those that are found; but a group before it, of a file with a longer
    name or in a deeper directory, is found first. Groups behind it do not matter.
-/

namespace BundleGraph

open Stats Sizes

/-! ### Modules at the top level -/

/-- A module that is in no wrapper, and is none, is looked for by its name. -/
theorem sizeNeedle_top {kind : ModuleKind} (h : kind ≠ .concatenated) (f : String) :
    sizeNeedle kind none f = f := by
  unfold sizeNeedle
  by_cases hf : f = ""
  · rw [if_pos hf, hf]
  · rw [if_neg hf, if_neg h]

/-- What stands at the top level of an assembled chunk has the sizes that the report answers its
    name with, wrappers apart. -/
theorem Assembler.forall₂_moduleSize {a : Assembler} {record : ChunkRecord} {c : Chunk}
    {known known' : Analyses} (h : (a.chunk record).run known = .ok (c, known')) :
    List.Forall₂ (fun x m => x.kind ≠ .concatenated →
      a.sizes.moduleSize record.key x.fileName = .ok m.sizes) record.modules c.modules := by
  obtain ⟨p, hsame, _, hchunk⟩ := exists_prepared_chunk h
  have hmodules := Prepared.modules_eq_ok_iff.1 (Prepared.chunk_eq_ok_iff.1 hchunk).2.2.2
  refine hmodules.imp ?_
  intro x m hm hkind
  obtain ⟨_, _, _, _, sizes, hsizes, rfl⟩ := Prepared.module_eq_ok_iff.1 hm
  rw [hsame, sizesIn, sizeNeedle_top hkind, mapError_eq_ok_iff] at hsizes
  exact hsizes

/-- `Backfills r id f g`: the report answers the name of the file with the sizes of the group, and
    these are the sizes of the modules of that name at the top level of the chunk, wrappers apart.
    -/
structure Backfills (r : Report) (id f : String) (g : Entry) : Prop where
  /-- The report has the sizes of the group. -/
  found : r.moduleSize id f = g.sizes
  /-- The modules of an assembled chunk have them, whatever was assembled before. -/
  given : ∀ (a : Assembler) (record : ChunkRecord) (c : Chunk) (known known' : Analyses),
    a.sizes = r → record.key = id → (a.chunk record).run known = .ok (c, known') →
    List.Forall₂ (fun x m => x.kind ≠ .concatenated → x.fileName = f → g.sizes = .ok m.sizes)
      record.modules c.modules

/-- Modules have the sizes that the report answers with. -/
theorem Backfills.of_moduleSize {r : Report} {id f : String} {g : Entry}
    (h : r.moduleSize id f = g.sizes) : Backfills r id f g where
  found := h
  given := by
    intro a record c known known' hsizes hkey hc
    refine (Assembler.forall₂_moduleSize hc).imp ?_
    intro x m hm hkind hf
    rw [← h, ← hsizes, ← hkey, ← hf]
    exact hm hkind

/-! ### The group of a file -/

/-- A file is found in its own group. -/
theorem liesAt_own {g : Entry} {f : String} (hpath : g.path = some ("./" ++ f)) : g.LiesAt f := by
  refine ⟨"./" ++ f, hpath, ?_, ?_⟩
  · intro hempty
    have hlist := congrArg String.toList hempty
    rw [String.toList_append] at hlist
    cases hlist
  · rw [String.toList_append]
    exact (List.suffix_append _ _).isInfix

/-- **Sizes of a file.** Let the entry that counts for a chunk hold the group of a file, at whatever
    depth. If no group before it in pre-order has a path that contains the name of the file, the
    file has the sizes of its group, whatever stands behind it. Otherwise it has the sizes of the
    first such group. -/
theorem backfilled_own_unless_earlier {entries : List Entry} {r : Report}
    (h : Report.ofEntries entries = .ok r) {id f : String} {e g : Entry}
    {before after : List Entry} (he : Counts entries id e) (hf : f ≠ "")
    (hgroups : Entry.preorderAll e.groups = before ++ g :: after)
    (hpath : g.path = some ("./" ++ f)) :
    ((∀ x ∈ before, ¬ x.LiesAt f) → Backfills r id f g) ∧
    ∀ x, FirstAt f before x → Backfills r id f x := by
  constructor
  · intro hbefore
    have hfirst : FirstAt f (Entry.preorderAll e.groups) g :=
      ⟨before, after, hgroups, liesAt_own hpath, hbefore⟩
    exact .of_moduleSize (moduleSize_of_firstAt h he hf hfirst)
  · intro x hx
    obtain ⟨front, back, rfl, hlies, hfront⟩ := hx
    have hfirst : FirstAt f (Entry.preorderAll e.groups) x := by
      refine ⟨front, back ++ g :: after, ?_, hlies, hfront⟩
      rw [hgroups, List.append_assoc, List.cons_append]
    exact .of_moduleSize (moduleSize_of_firstAt h he hf hfirst)

/-- A file named `a.js` with a size. -/
def sizedFile (n : Int) : Entry := ⟨"a.js", some "./a.js", n, 0, 0, false, []⟩

/-- A file with a longer name, which contains that of the other file. -/
def longerFile : Entry := ⟨"a.jsx", some "./a.jsx", 1, 0, 0, false, []⟩

/-- In the one chunk the file with the longer name stands first, in the other one it comes after the
    file, which stands within a directory. -/
def similarNames : List Entry := [
  ⟨"vendor.js", none, 0, 0, 0, false, [longerFile, sizedFile 2]⟩,
  ⟨"main.js", none, 0, 0, 0, false, [
    ⟨"root", some ".", 9, 0, 0, false, [⟨"b.js", some "./b.js", 8, 0, 0, false, []⟩, sizedFile 3]⟩,
    longerFile]⟩]

theorem ofEntries_similarNames :
    Report.ofEntries similarNames = .ok ⟨.ofListLast (similarNames.map Report.assetOf)⟩ :=
  Report.ofEntries_eq_ok_iff.2 ⟨by decide, rfl⟩

theorem counts_similarNames : Counts similarNames "vendor"
    ⟨"vendor.js", none, 0, 0, 0, false, [longerFile, sizedFile 2]⟩ :=
  ⟨[], [_], rfl, by decide +kernel, by decide +kernel⟩

/-- A file does not always have the sizes of its own group, even if there is only one. -/
theorem longer_name_found_first :
    ¬ ∀ (entries : List Entry) (r : Report) (id f : String) (e g : Entry),
      Report.ofEntries entries = .ok r → Counts entries id e → f ≠ "" →
      (∃ before after, Entry.preorderAll e.groups = before ++ g :: after ∧
        g.path = some ("./" ++ f) ∧ ∀ x ∈ before ++ after, x.path ≠ some ("./" ++ f)) →
      r.moduleSize id f = g.sizes := by
  intro hall
  have hown := hall similarNames _ "vendor" "a.js" _ (sizedFile 2) ofEntries_similarNames
    counts_similarNames (by decide) ⟨[longerFile], [], rfl, by decide, by decide⟩
  have hfirst : FirstAt "a.js" [longerFile, sizedFile 2] longerFile :=
    ⟨[], [_], rfl, by decide +kernel, nofun⟩
  rw [moduleSize_of_firstAt ofEntries_similarNames counts_similarNames (by decide) hfirst] at hown
  exact absurd hown (by decide)

/-- The record of the main chunk, with the external module `a.js`. -/
def mainRecord : ChunkRecord :=
  ⟨none, some "main", none, true, [⟨none, .external, "a.js", none, [], .null, []⟩]⟩

/-- In the main chunk the file has its own size, in the vendor chunk that of the longer name. -/
theorem backfilled_similarNames : ∃ r, Report.ofEntries similarNames = .ok r ∧
    r.moduleSize "vendor" "a.js" = .ok ⟨1, 0, 0⟩ ∧ r.moduleSize "main" "a.js" = .ok ⟨3, 0, 0⟩ ∧
    ∃ c known, ((⟨fun _ => .ok .empty, r, .standard⟩ : Assembler).chunk mainRecord).run .empty =
        .ok (c, known) ∧
      c.modules.map Module.sizes = [⟨3, 0, 0⟩] := by
  have hmain : Counts similarNames "main" similarNames[1] :=
    ⟨[_], [], rfl, by decide +kernel, nofun⟩
  have hfirst : FirstAt "a.js" [longerFile] longerFile :=
    ⟨[], [], rfl, by decide +kernel, nofun⟩
  have hvendorGroups : Entry.preorderAll [longerFile, sizedFile 2] =
      [longerFile] ++ sizedFile 2 :: [] := rfl
  have hmainGroups : Entry.preorderAll (similarNames[1]).groups =
      [_, _] ++ sizedFile 3 :: [longerFile] := rfl
  have hlonger := (backfilled_own_unless_earlier (f := "a.js") ofEntries_similarNames
    counts_similarNames (by decide) hvendorGroups rfl).2 longerFile hfirst
  have hown := (backfilled_own_unless_earlier (f := "a.js") ofEntries_similarNames hmain
    (by decide) hmainGroups rfl).1 (by decide +kernel)
  obtain ⟨⟨c, known⟩, hc, -⟩ := exists_ok_of_any (p := fun _ => true)
    (x := ((⟨fun _ => .ok .empty, ⟨.ofListLast (similarNames.map Report.assetOf)⟩, .standard⟩ :
      Assembler).chunk mainRecord).run .empty) (by decide +kernel)
  have hsizes := hown.given _ mainRecord c .empty known rfl (by decide) hc
  refine ⟨_, ofEntries_similarNames, hlonger.found, hown.found, c, known, hc, ?_⟩
  generalize c.modules = ms at hsizes
  cases hsizes with
  | cons hm hrest =>
    cases hrest
    have hm : (sizedFile 3).sizes = _ := hm nofun rfl
    rw [List.map_cons, ← Except.ok.inj hm]
    rfl

end BundleGraph
