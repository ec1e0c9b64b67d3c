import BundleGraph.Proofs.Preorder
import BundleGraph.Proofs.Registry

/-! # Registries of joined lists

    The first module of a name counts. So the registry of two lists of chunks is
    that of the first list, with the names behind it that only the second list
    brings in (`entries_index_append`); a list that is repeated brings in nothing.

    What a registry holds is read off the recursive pre-order of the chunks. The
    two indexes part it by kind, and each of them keeps the names in the order of
    their first occurrence. A name may stand in both; then it is that of a real
    module.
-/

namespace BundleGraph.Registry

/-! ### What is listed -/

/-- All modules that stand in chunks with a name, and after each wrapper all that it stands for. -/
def listed (chunks : List Chunk) : List Module :=
  (chunks.filter fun c => c.id ≠ "").flatMap fun c => Module.preorderAll c.modules

/-- The modules with a name that are listed and have a kind of the given sort. -/
def listedNamed (sort : ModuleKind → Bool) (chunks : List Chunk) : List Module :=
  (listed chunks).filter fun m => sort m.kind && m.fileName ≠ ""

theorem listed_eq_carried (chunks : List Chunk) : listed chunks = carried chunks := by
  simp only [listed, carried, ← Chunk.carried_eq]

theorem listed_append (xs ys : List Chunk) : listed (xs ++ ys) = listed xs ++ listed ys := by
  rw [listed, List.filter_append, List.flatMap_append, listed, listed]

theorem listedNamed_append (sort : ModuleKind → Bool) (xs ys : List Chunk) :
    listedNamed sort (xs ++ ys) = listedNamed sort xs ++ listedNamed sort ys := by
  rw [listedNamed, listed_append, List.filter_append, listedNamed, listedNamed]

/-! ### One index

    A registry has two indexes, which differ in the kinds of their modules. -/

/-- The modules of a sort by name, the first of each name. -/
def index (sort : ModuleKind → Bool) (chunks : List Chunk) : OrderedMap String Module :=
  .ofListFirst ((listedNamed sort chunks).map fun m => (m.fileName, m))

section

variable (sort : ModuleKind → Bool)

theorem index_eq {test : Module → Bool} (h : ∀ m, test m = sort m.kind) (chunks : List Chunk) :
    OrderedMap.ofListFirst (named ((carried chunks).filter test)) = index sort chunks := by
  rw [index, named, List.filter_filter, listedNamed, listed_eq_carried]
  congr 2
  apply List.filter_congr
  intro m _
  rw [h, Bool.and_comm]

theorem keys_index (chunks : List Chunk) :
    (index sort chunks).keys = ((listedNamed sort chunks).map Module.fileName).eraseDups := by
  rw [index, OrderedMap.keys_ofListFirst, List.map_map]
  rfl

/-- A name stands for the first module that is listed under it. -/
theorem lookup?_index (chunks : List Chunk) (f : String) :
    (index sort chunks).lookup? f =
      (listedNamed sort chunks).find? fun m => m.fileName = f := by
  rw [index, OrderedMap.lookup?_ofListFirst, OrderedMap.find_map_eq, Option.map_id']

/-- A second list adds the names that the first one does not have. -/
theorem entries_index_append (xs ys : List Chunk) :
    (index sort (xs ++ ys)).entries = (index sort xs).entries ++
      (index sort ys).entries.filter fun e => e.1 ∉ (index sort xs).keys := by
  rw [index, listedNamed_append, List.map_append, OrderedMap.entries_ofListFirst_append, index,
    index]

theorem index_append_self (xs : List Chunk) : index sort (xs ++ xs) = index sort xs := by
  rw [index, listedNamed_append, List.map_append, OrderedMap.ofListFirst_append_self, index]

end

/-! ### The two indexes of a registry -/

theorem modules_build_eq (chunks : List Chunk) :
    (build chunks).modules = index (· ≠ .concatenated) chunks := by
  apply index_eq
  intro m
  by_cases hm : m.kind = .concatenated <;> simp [Module.isWrapper, hm]

theorem wrappers_build_eq (chunks : List Chunk) :
    (build chunks).wrappers = index (· = .concatenated) chunks := by
  apply index_eq
  intro m
  by_cases hm : m.kind = .concatenated <;> simp [Module.isWrapper, hm]

theorem build_append_self (xs : List Chunk) : build (xs ++ xs) = build xs := by
  have hmodules : (build (xs ++ xs)).modules = (build xs).modules := by
    rw [modules_build_eq, modules_build_eq, index_append_self]
  have hwrappers : (build (xs ++ xs)).wrappers = (build xs).wrappers := by
    rw [wrappers_build_eq, wrappers_build_eq, index_append_self]
  exact congrArg₂ Registry.mk hmodules hwrappers

/-! ### Names that stand for wrappers -/

/-- A name is that of a wrapper only exactly if looking it up leads to a wrapper. -/
theorem Sound.isWrapper_iff_lookup? {r : Registry} (h : r.Sound) {f : String} :
    r.isWrapper f = true ↔ ∃ w, r.lookup? f = some w ∧ w.kind = .concatenated := by
  rw [isWrapper_iff, lookup?]
  cases hm : r.modules.lookup? f with
  | some m =>
    -- a real module stands before any wrapper of its name
    have hmem : f ∈ r.modules.keys := OrderedMap.mem_keys_of_lookup? hm
    have hreal : m.kind ≠ .concatenated := (h.real hm).2.2
    simp [hmem, hreal]
  | none =>
    have hmem : f ∉ r.modules.keys := (OrderedMap.lookup?_eq_none_iff _ f).1 hm
    rw [Option.none_or]
    constructor
    · intro hw
      obtain ⟨w, hw⟩ := OrderedMap.exists_lookup?_of_mem_keys hw.2
      exact ⟨w, hw, (h.wrapper hw).2.2⟩
    · intro hw
      obtain ⟨w, hw, _⟩ := hw
      exact ⟨hmem, OrderedMap.mem_keys_of_lookup? hw⟩

/-- **The first of a name counts.** The registry of two lists of chunks holds what that of the first
    list holds, in its order, and then what that of the second list holds under other names; so a
    list that is repeated adds nothing. The real modules of a registry are those that chunks with a
    name stand for, in pre-order: their names come in the order of first occurrence, each with its
    first module, which is no wrapper. The same holds of the wrappers. A name that is looked up
    leads to a real module if there is one, and it is a wrapper's exactly if it leads to a wrapper.
    -/
theorem build_first_counts (xs ys : List Chunk) :
    (build (xs ++ ys)).modules.entries = (build xs).modules.entries ++
      (build ys).modules.entries.filter (fun e => e.1 ∉ (build xs).modules.keys) ∧
    (build (xs ++ ys)).wrappers.entries = (build xs).wrappers.entries ++
      (build ys).wrappers.entries.filter (fun e => e.1 ∉ (build xs).wrappers.keys) ∧
    build (xs ++ xs) = build xs ∧
    (build xs).modules.keys =
      ((listedNamed (· ≠ .concatenated) xs).map Module.fileName).eraseDups ∧
    (build xs).wrappers.keys =
      ((listedNamed (· = .concatenated) xs).map Module.fileName).eraseDups ∧
    (∀ f, (build xs).modules.lookup? f =
      (listedNamed (· ≠ .concatenated) xs).find? fun m => m.fileName = f) ∧
    (∀ f, (build xs).wrappers.lookup? f =
      (listedNamed (· = .concatenated) xs).find? fun m => m.fileName = f) ∧
    (∀ m ∈ (build xs).modules.values, m.kind ≠ .concatenated) ∧
    (∀ f m, (build xs).modules.lookup? f = some m → (build xs).lookup? f = some m) ∧
    (∀ f, (build xs).modules.lookup? f = none →
      (build xs).lookup? f = (build xs).wrappers.lookup? f) ∧
    ∀ f, (build xs).isWrapper f = true ↔
      ∃ w, (build xs).lookup? f = some w ∧ w.kind = .concatenated := by
  have hsound := build_sound xs
  have hreal : ∀ m ∈ (build xs).modules.values, m.kind ≠ .concatenated := by
    intro m hm
    exact (hsound.real (hsound.exists_lookup?_of_mem_values hm)).2.2
  have hfirst : ∀ f m, (build xs).modules.lookup? f = some m → (build xs).lookup? f = some m := by
    intro f m hm
    rw [lookup?, hm, Option.some_or]
  have helse : ∀ f, (build xs).modules.lookup? f = none →
      (build xs).lookup? f = (build xs).wrappers.lookup? f := by
    intro f hm
    rw [lookup?, hm, Option.none_or]
  refine ⟨?_, ?_, build_append_self xs, ?_, ?_, ?_, ?_, hreal, hfirst, helse,
    fun f => hsound.isWrapper_iff_lookup?⟩
  · rw [modules_build_eq, modules_build_eq, modules_build_eq, entries_index_append]
  · rw [wrappers_build_eq, wrappers_build_eq, wrappers_build_eq, entries_index_append]
  · rw [modules_build_eq, keys_index]
  · rw [wrappers_build_eq, keys_index]
  · intro f
    rw [modules_build_eq, lookup?_index]
  · intro f
    rw [wrappers_build_eq, lookup?_index]

end BundleGraph.Registry
