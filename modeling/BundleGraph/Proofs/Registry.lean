import BundleGraph.Proofs.Nesting
import BundleGraph.Proofs.OrderedMap

/-! # What a registry holds

    A registry that was built from chunks keeps its two indexes apart: under a
    name stands a module of that name, real in one index and a wrapper in the
    other (`Registry.Sound`).

    Its real modules are what the chunks with a name carry, in order of first
    occurrence (`keys_modules_build`).
-/

namespace BundleGraph

/-! ### Real modules of a chunk -/

namespace Chunk

/-- `c.Bundles f`: the chunk carries a real module with the name `f`, which is not empty. -/
def Bundles (c : Chunk) (f : String) : Prop :=
  f ≠ "" ∧ ∃ m, c.Carries m ∧ m.kind ≠ .concatenated ∧ m.fileName = f

/-- The real modules with a name that a chunk carries, in pre-order. -/
def contents (c : Chunk) : List Module :=
  c.carried.filter fun m => !m.isWrapper && m.fileName ≠ ""

theorem mem_contents_iff {c : Chunk} {m : Module} :
    m ∈ c.contents ↔ c.Carries m ∧ m.kind ≠ .concatenated ∧ m.fileName ≠ "" := by
  rw [contents, List.mem_filter, mem_carried_iff]
  simp [Module.isWrapper]

theorem bundles_iff {c : Chunk} {f : String} :
    c.Bundles f ↔ ∃ m ∈ c.contents, m.fileName = f := by
  constructor
  · intro h
    obtain ⟨hf, m, hc, hk, hname⟩ := h
    subst hname
    exact ⟨m, mem_contents_iff.2 ⟨hc, hk, hf⟩, rfl⟩
  · intro h
    obtain ⟨m, hm, hname⟩ := h
    subst hname
    obtain ⟨hc, hk, hf⟩ := mem_contents_iff.1 hm
    exact ⟨hf, m, hc, hk, rfl⟩

end Chunk

/-- The real modules with a name that the chunks with a name carry, each with its chunk. -/
def contentsOf (chunks : List Chunk) : List (Chunk × Module) :=
  (chunks.filter fun c => c.id ≠ "").flatMap fun c => c.contents.map fun m => (c, m)

theorem mem_contentsOf_iff {chunks : List Chunk} {c : Chunk} {m : Module} :
    (c, m) ∈ contentsOf chunks ↔ (c ∈ chunks ∧ c.id ≠ "") ∧ m ∈ c.contents := by
  simp only [contentsOf, List.mem_flatMap, List.mem_filter, List.mem_map, Prod.mk.injEq,
    decide_eq_true_eq]
  constructor
  · intro h
    obtain ⟨c', hc', m', hm', hchunk, hmodule⟩ := h
    subst hchunk hmodule
    exact ⟨hc', hm'⟩
  · intro h
    obtain ⟨hc, hm⟩ := h
    exact ⟨c, hc, m, hm, rfl, rfl⟩

namespace Registry

/-! ### The two indexes -/

/-- Under every name stands a module of that name and of the kind of the index. -/
structure Sound (r : Registry) : Prop where
  /-- The first index holds real modules. -/
  real : ∀ {f m}, r.modules.lookup? f = some m →
    m.fileName = f ∧ f ≠ "" ∧ m.kind ≠ .concatenated
  /-- The second index holds wrappers. -/
  wrapper : ∀ {f w}, r.wrappers.lookup? f = some w →
    w.fileName = f ∧ f ≠ "" ∧ w.kind = .concatenated

/-- A module that was found by name is in the list, under its own name. -/
theorem of_find_named {ms : List Module} {f : String} {m : Module}
    (h : OrderedMap.find f (named ms) = some m) : m ∈ ms ∧ m.fileName = f ∧ f ≠ "" := by
  have hm := OrderedMap.mem_of_find_eq_some h
  simp only [named, List.mem_map, List.mem_filter, decide_eq_true_eq, Prod.mk.injEq] at hm
  obtain ⟨m', ⟨hm', hf⟩, rfl, rfl⟩ := hm
  exact ⟨hm', rfl, hf⟩

theorem build_sound (chunks : List Chunk) : (build chunks).Sound where
  real := by
    intro f m h
    rw [build, OrderedMap.lookup?_ofListFirst] at h
    obtain ⟨hm, hf, hne⟩ := of_find_named h
    have hk := (List.mem_filter.1 hm).2
    exact ⟨hf, hne, by simpa [Module.isWrapper] using hk⟩
  wrapper := by
    intro f w h
    rw [build, OrderedMap.lookup?_ofListFirst] at h
    obtain ⟨hw, hf, hne⟩ := of_find_named h
    have hk := (List.mem_filter.1 hw).2
    exact ⟨hf, hne, Module.isWrapper_iff.1 hk⟩

theorem contains_iff {r : Registry} {f : String} : r.contains f = true ↔ f ∈ r.modules.keys :=
  OrderedMap.contains_iff r.modules f

theorem isWrapper_iff {r : Registry} {f : String} :
    r.isWrapper f = true ↔ f ∉ r.modules.keys ∧ f ∈ r.wrappers.keys := by
  rw [isWrapper, Bool.and_eq_true, OrderedMap.contains_iff, Bool.not_eq_true',
    ← Bool.not_eq_true, OrderedMap.contains_iff]

/-- No name is that of a real module and of a wrapper only. -/
theorem not_isWrapper_of_contains {r : Registry} {f : String} (h : r.contains f = true) :
    r.isWrapper f = false := by
  rw [← Bool.not_eq_true, isWrapper_iff]
  exact fun hw => hw.1 (contains_iff.1 h)

/-- A name in the list of modules is the name of the module that stands there. -/
theorem Sound.exists_lookup?_of_mem_values {r : Registry} (h : r.Sound) {m : Module}
    (hm : m ∈ r.modules.values) : r.modules.lookup? m.fileName = some m := by
  obtain ⟨⟨f, m'⟩, he, rfl⟩ := List.mem_map.1 hm
  have hl := (OrderedMap.mem_entries_iff r.modules f m').1 he
  have hf := (h.real hl).1
  simpa [hf] using hl

theorem Sound.contains_of_mem_values {r : Registry} (h : r.Sound) {m : Module}
    (hm : m ∈ r.modules.values) : r.contains m.fileName = true :=
  contains_iff.2 (OrderedMap.mem_keys_of_lookup? (h.exists_lookup?_of_mem_values hm))

/-- The keys of the first index are the names of its modules. -/
theorem Sound.map_fileName_values {r : Registry} (h : r.Sound) :
    r.modules.values.map Module.fileName = r.modules.keys := by
  rw [OrderedMap.values, OrderedMap.keys, List.map_map]
  apply List.map_congr_left
  intro e he
  exact (h.real ((OrderedMap.mem_entries_iff r.modules e.1 e.2).1 he)).1

/-! ### The registry of a list of chunks -/

theorem named_real_carried (chunks : List Chunk) :
    named ((carried chunks).filter fun m => !m.isWrapper)
      = (contentsOf chunks).map fun p => (p.2.fileName, p.2) := by
  have same : ((carried chunks).filter fun m => !m.isWrapper).filter (fun m => m.fileName ≠ "")
      = (chunks.filter fun c => c.id ≠ "").flatMap Chunk.contents := by
    rw [List.filter_filter, carried, List.filter_flatMap]
    congr 1
    funext c
    rw [Chunk.contents]
    congr 1
    funext m
    exact Bool.and_comm _ _
  rw [named, same, contentsOf, List.map_flatMap, List.map_flatMap]
  congr 1
  funext c
  simp

theorem keys_modules_build (chunks : List Chunk) :
    (build chunks).modules.keys = ((contentsOf chunks).map fun p => p.2.fileName).eraseDups := by
  rw [build, OrderedMap.keys_ofListFirst, named_real_carried, List.map_map]
  rfl

/-- The real modules of a built registry are those that a chunk with a name bundles. -/
theorem contains_build_iff {chunks : List Chunk} {f : String} :
    (build chunks).contains f = true ↔ ∃ c ∈ chunks, c.id ≠ "" ∧ c.Bundles f := by
  rw [contains_iff, keys_modules_build, List.mem_eraseDups, List.mem_map]
  constructor
  · intro h
    obtain ⟨⟨c, m⟩, hp, hname⟩ := h
    subst hname
    obtain ⟨⟨hc, hid⟩, hm⟩ := mem_contentsOf_iff.1 hp
    exact ⟨c, hc, hid, Chunk.bundles_iff.2 ⟨m, hm, rfl⟩⟩
  · intro h
    obtain ⟨c, hc, hid, hf⟩ := h
    obtain ⟨m, hm, rfl⟩ := Chunk.bundles_iff.1 hf
    exact ⟨(c, m), mem_contentsOf_iff.2 ⟨⟨hc, hid⟩, hm⟩, rfl⟩

end Registry

end BundleGraph
