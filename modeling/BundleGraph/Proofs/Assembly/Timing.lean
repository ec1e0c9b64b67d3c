import BundleGraph.Proofs.Assembly.Analyses

/-! # When chunks are loaded

    Connections are looked at one by one, and the first evidence of prefetching
    ends the search. The kind that comes out depends on no order all the same:
    evidence of preloading that came before is overruled, and what comes after
    cannot count more (`classifyFrom_eq`).

    So the kind of an assembled chunk is a matter of which evidence there is
    (`ChunkRecord.LoadsAs`). It is the same for records with the same evidence,
    and more evidence only raises it.
-/

namespace BundleGraph

open Stats

/-! ### Markers -/

/-- A location shows one of the markers; the empty text marks nothing. -/
def Shows (markers : List String) (location : String) : Prop :=
  ∃ marker ∈ markers, marker ≠ "" ∧ marker.toList <:+: location.toList

theorem isMarked_iff {markers : List String} {location : String} :
    isMarked markers location = true ↔ Shows markers location := by
  simp only [isMarked, List.any_eq_true, Bool.and_eq_true, decide_eq_true_eq, Text.occursIn_iff,
    Shows]

namespace TimingMarkers

/-- What one pass finds, whatever came before: evidence of prefetching anywhere counts most. -/
theorem classifyFrom_eq (t : TimingMarkers) (preload : Bool) (locations : List String) :
    t.classifyFrom preload locations =
      if locations.any (isMarked t.prefetch) then .prefetch
      else if preload || locations.any (isMarked t.preload) then .preload
      else .lazy := by
  induction locations generalizing preload with
  | nil => simp [classifyFrom]
  | cons location rest ih =>
    rw [classifyFrom, List.any_cons, List.any_cons]
    by_cases hprefetch : isMarked t.prefetch location = true
    · rw [if_pos hprefetch, hprefetch, Bool.true_or, if_pos rfl]
    · rw [if_neg hprefetch, ih, Bool.eq_false_iff.2 hprefetch, Bool.false_or, Bool.or_assoc]

end TimingMarkers

/-! ### Evidence -/

namespace Stats

/-- A connection counts if it has an origin and stands somewhere. -/
def Connection.Counts (x : Connection) : Prop :=
  (∃ o, x.origin = some o ∧ o ≠ "") ∧ ∃ location, x.location = some location ∧ location ≠ ""

/-- `x.Marked markers`: the connection counts, and where it stands a marker is shown. -/
def Connection.Marked (x : Connection) (markers : List String) : Prop :=
  x.Counts ∧ ∃ location, x.location = some location ∧ Shows markers location

namespace ChunkRecord

/-- `r.HasEvidence markers`: a connection of a module at the top level is marked. -/
def HasEvidence (r : ChunkRecord) (markers : List String) : Prop :=
  ∃ m ∈ r.modules, ∃ x ∈ m.reasons, x.Marked markers

/-- `r.EvidenceIn r'`: whatever connection counts among those of modules at the top level of `r` is
    there among those of `r'`. -/
def EvidenceIn (r r' : ChunkRecord) : Prop :=
  ∀ m ∈ r.modules, ∀ x ∈ m.reasons, x.Counts → ∃ m' ∈ r'.modules, x ∈ m'.reasons

/-- `r.LoadsAs t kind`: the time of loading that the evidence calls for. -/
inductive LoadsAs (r : ChunkRecord) (t : TimingMarkers) : ChunkKind → Prop where
  | sync (initial : r.initial = true) : LoadsAs r t .sync
  | prefetch (later : r.initial = false) (h : r.HasEvidence t.prefetch) : LoadsAs r t .prefetch
  | preload (later : r.initial = false) (hnone : ¬ r.HasEvidence t.prefetch)
      (h : r.HasEvidence t.preload) : LoadsAs r t .preload
  | lazy (later : r.initial = false) (hnone : ¬ r.HasEvidence t.prefetch)
      (hnone' : ¬ r.HasEvidence t.preload) : LoadsAs r t .lazy

variable {r r' : ChunkRecord} {t : TimingMarkers} {markers : List String}

theorem mem_locations_iff {location : String} :
    location ∈ r.locations ↔
      ∃ m ∈ r.modules, ∃ x ∈ m.reasons, x.Counts ∧ x.location = some location := by
  simp only [locations, List.mem_flatMap, List.mem_filterMap]
  refine exists_congr fun m => and_congr_right fun _ => exists_congr fun x =>
    and_congr_right fun _ => ?_
  constructor
  · intro h
    split at h
    · rename_i horigin
      obtain ⟨hlocation, hne⟩ := Option.filter_eq_some_iff.1 h
      obtain ⟨o, ho⟩ := Option.isSome_iff_exists.1 horigin
      obtain ⟨ho, hone⟩ := Option.filter_eq_some_iff.1 ho
      exact ⟨⟨⟨o, ho, of_decide_eq_true hone⟩, location, hlocation, of_decide_eq_true hne⟩,
        hlocation⟩
    · cases h
  · intro h
    obtain ⟨⟨⟨o, ho, hone⟩, l, hl, hne⟩, hlocation⟩ := h
    obtain rfl := Option.some.inj (hl.symm.trans hlocation)
    simp [ho, hone, hl, hne]

theorem any_locations_iff :
    r.locations.any (isMarked markers) = true ↔ r.HasEvidence markers := by
  simp only [List.any_eq_true, isMarked_iff, mem_locations_iff]
  constructor
  · intro h
    obtain ⟨location, ⟨m, hm, x, hx, hcounts, hlocation⟩, hshows⟩ := h
    exact ⟨m, hm, x, hx, hcounts, location, hlocation, hshows⟩
  · intro h
    obtain ⟨m, hm, x, hx, hcounts, location, hlocation, hshows⟩ := h
    exact ⟨location, ⟨m, hm, x, hx, hcounts, hlocation⟩, hshows⟩

/-- The one pass over the locations finds the time of loading that the evidence calls for. -/
theorem loadsAs_classify : r.LoadsAs t (t.classify r.initial r.locations) := by
  rw [TimingMarkers.classify, TimingMarkers.classifyFrom_eq, Bool.false_or]
  cases hinitial : r.initial with
  | true => exact .sync hinitial
  | false =>
    rw [if_neg Bool.false_ne_true]
    split
    · rename_i hprefetch
      exact .prefetch hinitial (any_locations_iff.1 hprefetch)
    · rename_i hprefetch
      have hnone := mt any_locations_iff.2 hprefetch
      split
      · rename_i hpreload
        exact .preload hinitial hnone (any_locations_iff.1 hpreload)
      · rename_i hpreload
        exact .lazy hinitial hnone (mt any_locations_iff.2 hpreload)

theorem HasEvidence.mono (hin : r.EvidenceIn r') (h : r.HasEvidence markers) :
    r'.HasEvidence markers := by
  obtain ⟨m, hm, x, hx, hmarked⟩ := h
  obtain ⟨m', hm', hx'⟩ := hin m hm x hx hmarked.1
  exact ⟨m', hm', x, hx', hmarked⟩

/-- Modules at the top level with the same connections or more, in any order and number, whatever
    is nested in them. -/
theorem evidenceIn_of_subset (h : ∀ m ∈ r.modules, ∃ m' ∈ r'.modules, m.reasons ⊆ m'.reasons) :
    r.EvidenceIn r' := by
  intro m hm x hx _
  obtain ⟨m', hm', hsubset⟩ := h m hm
  exact ⟨m', hm', hsubset hx⟩

end ChunkRecord

end Stats

/-! ### More evidence -/

/-- `k.RaisedTo k'`: more evidence makes `k'` of `k`. -/
inductive ChunkKind.RaisedTo : ChunkKind → ChunkKind → Prop where
  | same (k : ChunkKind) : RaisedTo k k
  | lazy_preload : RaisedTo .lazy .preload
  | lazy_prefetch : RaisedTo .lazy .prefetch
  | preload_prefetch : RaisedTo .preload .prefetch

theorem ChunkKind.RaisedTo.antisymm {k k' : ChunkKind} (h : k.RaisedTo k') (h' : k'.RaisedTo k) :
    k' = k := by
  cases h with
  | same => rfl
  | lazy_preload => cases h'
  | lazy_prefetch => cases h'
  | preload_prefetch => cases h'

namespace Stats.ChunkRecord

variable {r r' : ChunkRecord} {t : TimingMarkers} {k k' : ChunkKind}

/-- Evidence that is added takes none away, so the kind can only be raised. -/
theorem LoadsAs.raisedTo (h : r.LoadsAs t k) (h' : r'.LoadsAs t k')
    (hinitial : r'.initial = r.initial) (hin : r.EvidenceIn r') : k.RaisedTo k' := by
  cases h with
  | sync initial =>
    cases h' with
    | sync => exact .same _
    | prefetch later | preload later | lazy later => simp [hinitial, initial] at later
  | prefetch later hprefetch =>
    cases h' with
    | sync initial => simp [← hinitial, initial] at later
    | prefetch => exact .same _
    | preload _ hnone | lazy _ hnone => exact absurd (hprefetch.mono hin) hnone
  | preload later _ hpreload =>
    cases h' with
    | sync initial => simp [← hinitial, initial] at later
    | prefetch => exact .preload_prefetch
    | preload => exact .same _
    | lazy _ _ hnone => exact absurd (hpreload.mono hin) hnone
  | lazy later =>
    cases h' with
    | sync initial => simp [← hinitial, initial] at later
    | prefetch => exact .lazy_prefetch
    | preload => exact .lazy_preload
    | lazy => exact .same _

end Stats.ChunkRecord

/-! ### Assembled chunks -/

section

variable {lib : Libraries} {disk : Files.Disk} {s : BuildStats} {c : Config} {sizes : Sizes.Report}
  {matcher : ChunkMatcher} {chunks : List Chunk}

theorem forall₂_loadsAs (h : assemble lib disk s c sizes matcher = .ok chunks) :
    List.Forall₂ (fun r k => r.LoadsAs c.markers k.kind) s.chunks chunks := by
  refine (forall₂_chunks h).imp fun r k hchunk => ?_
  rw [(Prepared.chunk_eq_ok_iff.1 hchunk).2.1]
  exact ChunkRecord.loadsAs_classify

/-- **Load timing.** Every chunk is loaded when the evidence in its record calls for: with the page
    if it is initial, else by the markers on the connections of its modules at the top level,
    prefetching before preloading. Let chunks of two builds under the same markers be both initial
    or both not. If the connections of the one that count are among those of the other, then the
    kind of the other is the same or raised; if the other has no more of them, it is the same. Their
    order and number, what is nested, and connections that do not count make no difference. -/
theorem kinds_of_evidence (h : assemble lib disk s c sizes matcher = .ok chunks) :
    List.Forall₂ (fun r k => r.LoadsAs c.markers k.kind) s.chunks chunks ∧
    ∀ (lib' : Libraries) (disk' : Files.Disk) (s' : BuildStats) (c' : Config)
      (sizes' : Sizes.Report) (matcher' : ChunkMatcher) (chunks' : List Chunk),
      assemble lib' disk' s' c' sizes' matcher' = .ok chunks' → c'.markers = c.markers →
      ∀ e ∈ s.chunks.zip chunks, ∀ e' ∈ s'.chunks.zip chunks',
        e'.1.initial = e.1.initial → e.1.EvidenceIn e'.1 →
        e.2.kind.RaisedTo e'.2.kind ∧ (e'.1.EvidenceIn e.1 → e'.2.kind = e.2.kind) := by
  refine ⟨forall₂_loadsAs h, fun lib' disk' s' c' sizes' matcher' chunks' h' hmarkers => ?_⟩
  intro e he e' he' hinitial hin
  have hkind := (List.forall₂_iff_zip.1 (forall₂_loadsAs h)).2 he
  have hkind' := (List.forall₂_iff_zip.1 (forall₂_loadsAs h')).2 he'
  rw [hmarkers] at hkind'
  have hraised := hkind.raisedTo hkind' hinitial hin
  exact ⟨hraised, fun hback => hraised.antisymm (hkind'.raisedTo hkind hinitial.symm hback)⟩

end

/-- A chunk that is loaded later. -/
def laterChunk (modules : List ModuleRecord) : ChunkRecord :=
  ⟨none, some "later", none, false, modules⟩

/-- A connection from `a.js`, at a place where preloading is marked. -/
def preloaded : Connection := ⟨some "a.js", "", none, some "3:0 webpackPreload"⟩

/-- A place where prefetching is marked, but nothing is said of the origin. -/
def adrift : Connection := ⟨none, "", none, some "4:0 webpackPrefetch"⟩

/-- A module that a connection pulls in. -/
def preloadedModule : ModuleRecord := ⟨none, .external, "b.js", none, [preloaded], .null, []⟩

/-- The same module twice, after a wrapper that holds a module with a mark of prefetching and has
    itself only a connection that does not count. -/
def rearrangedModules : List ModuleRecord := [
  ⟨none, .concatenated, "w.js", none, [adrift], .null,
    [⟨none, .external, "c.js", none, [⟨some "a.js", "", none, some "5:0 webpackPrefetch"⟩], .null,
      []⟩]⟩,
  preloadedModule, preloadedModule]

/-- The records of the two chunks have the same evidence. -/
theorem evidenceIn_rearranged :
    (laterChunk [preloadedModule]).EvidenceIn (laterChunk rearrangedModules) ∧
      (laterChunk rearrangedModules).EvidenceIn (laterChunk [preloadedModule]) := by
  constructor
  · refine ChunkRecord.evidenceIn_of_subset fun m hm => ⟨m, ?_, List.Subset.refl _⟩
    rw [List.mem_singleton.1 hm]
    exact List.mem_cons_of_mem _ List.mem_cons_self
  · intro m hm x hx hcounts
    refine ⟨preloadedModule, List.mem_cons_self, ?_⟩
    rw [laterChunk, rearrangedModules] at hm
    simp only [List.mem_cons, List.not_mem_nil, or_false] at hm
    rcases hm with rfl | rfl | rfl
    · -- the wrapper has no connection that counts
      obtain ⟨⟨o, ho, _⟩, _⟩ := hcounts
      obtain rfl := List.mem_singleton.1 hx
      cases ho
    · exact hx
    · exact hx

/-- Both chunks are preloaded: what was added is no evidence of prefetching. -/
theorem kinds_of_rearranged :
    let given : BuildStats := ⟨none, none, [laterChunk [preloadedModule]]⟩
    let rearranged : BuildStats := ⟨none, none, [laterChunk rearrangedModules]⟩
    ∃ chunks chunks', assemble .plain .empty given .standard .empty .nothing = .ok chunks ∧
      assemble .plain .empty rearranged .standard .empty .nothing = .ok chunks' ∧
      chunks.map Chunk.kind = [.preload] ∧ chunks'.map Chunk.kind = [.preload] := by
  intro given rearranged
  obtain ⟨chunks, hchunks, hkinds⟩ := exists_ok_of_any
    (x := assemble .plain .empty given .standard .empty .nothing)
    (p := fun chunks => chunks.map Chunk.kind == [.preload]) (by decide +kernel)
  obtain ⟨chunks', hchunks', hlength'⟩ := exists_ok_of_any
    (x := assemble .plain .empty rearranged .standard .empty .nothing)
    (p := fun chunks => chunks.length == 1) (by decide +kernel)
  rw [beq_iff_eq] at hkinds hlength'
  have hlength : chunks.length = 1 := by
    rw [← List.length_map (f := Chunk.kind), hkinds]
    rfl
  obtain ⟨k, rfl⟩ := List.length_eq_one_iff.1 hlength
  obtain ⟨k', rfl⟩ := List.length_eq_one_iff.1 hlength'
  obtain ⟨hin, hback⟩ := evidenceIn_rearranged
  have hsame : k'.kind = k.kind := ((kinds_of_evidence hchunks).2 _ _ _ _ _ _ _ hchunks' rfl
    (laterChunk _, k) List.mem_cons_self (laterChunk _, k') List.mem_cons_self rfl hin).2 hback
  refine ⟨_, _, hchunks, hchunks', hkinds, ?_⟩
  rw [List.map_singleton, hsame]
  exact hkinds

end BundleGraph
