import BundleGraph.Graph.Build
import BundleGraph.Proofs.Importers

/-! # Links for reasons

    A reason stands for real modules: the one that it names, or the importers of
    the wrapper that it names. `Registry.importLinks` lists the links that come
    from this, in the order in which a build makes them.

    A build makes them with a resolver that remembers searches. What it
    remembers makes no difference (`linksOfModules_eq`).
-/

namespace BundleGraph

/-! ### Without a memory -/

namespace Registry

/-- The real modules that a reason stands for: the one that it names, or the importers of the
    wrapper that it names. -/
def sourcesOf (r : Registry) (reason : Reason) : List String :=
  match reason.source? with
  | none => []
  | some o =>
    if r.contains o then [o]
    else if r.isWrapper o then r.importers o
    else []

end Registry

/-- A reason as the link from a source carries it: unchanged from the module that it names, and
    rerouted from every other one. -/
def Reason.carriedFrom (reason : Reason) (s : String) : Reason :=
  match reason.origin with
  | none => reason
  | some o => if o = s then reason else reason.rerouted o s

theorem Reason.carriedFrom_self {reason : Reason} {s : String} (h : reason.origin = some s) :
    reason.carriedFrom s = reason := by
  rw [Reason.carriedFrom, h]
  exact if_pos rfl

theorem Reason.carriedFrom_of_ne {reason : Reason} {o s : String} (h : reason.origin = some o)
    (hne : o ≠ s) : reason.carriedFrom s = reason.rerouted o s := by
  rw [Reason.carriedFrom, h]
  exact if_neg hne

namespace Registry

/-- The links for one reason of the real module `target`. -/
def linksOfReason (r : Registry) (target : String) (reason : Reason) : List GraphLink :=
  ((r.sourcesOf reason).filter fun s => s ≠ target).map fun s =>
    ⟨s, target, some (reason.carriedFrom s)⟩

/-- The links for all reasons of a real module. -/
def linksOfModule (r : Registry) (m : Module) : List GraphLink :=
  m.reasons.flatMap (r.linksOfReason m.fileName)

/-- The links for all real modules, in the order of the registry. -/
def importLinks (r : Registry) : List GraphLink := r.modules.values.flatMap r.linksOfModule

theorem mem_sourcesOf_iff {r : Registry} {reason : Reason} {s : String} :
    s ∈ r.sourcesOf reason ↔ ∃ o, reason.source? = some o ∧
      (r.contains o = true ∧ s = o ∨ r.isWrapper o = true ∧ s ∈ r.importers o) := by
  unfold sourcesOf
  cases hs : reason.source? with
  | none => simp
  | some o =>
    by_cases real : r.contains o = true
    · simp [real, not_isWrapper_of_contains real]
    · by_cases only : r.isWrapper o = true
      · simp [real, only]
      · simp [real, only]

/-- All of them are real modules. -/
theorem contains_of_mem_importers {r : Registry} {s x : String} (h : s ∈ r.importers x) :
    r.contains s = true := by
  induction mem_importers_iff.1 h with
  | direct real _ => exact real
  | through _ _ _ ih => exact ih (mem_importers_iff.2 ‹_›)

theorem contains_of_mem_sourcesOf {r : Registry} {reason : Reason} {s : String}
    (h : s ∈ r.sourcesOf reason) : r.contains s = true := by
  obtain ⟨o, _, ⟨real, rfl⟩ | ⟨_, hs⟩⟩ := mem_sourcesOf_iff.1 h
  · exact real
  · exact contains_of_mem_importers hs

theorem mem_linksOfReason_iff {r : Registry} {target : String} {reason : Reason} {l : GraphLink} :
    l ∈ r.linksOfReason target reason ↔
      ∃ s ∈ r.sourcesOf reason, s ≠ target ∧ l = ⟨s, target, some (reason.carriedFrom s)⟩ := by
  simp only [linksOfReason, List.mem_map, List.mem_filter, decide_eq_true_eq]
  constructor
  · intro h
    obtain ⟨s, ⟨hs, hne⟩, hl⟩ := h
    exact ⟨s, hs, hne, hl.symm⟩
  · intro h
    obtain ⟨s, hs, hne, hl⟩ := h
    exact ⟨s, ⟨hs, hne⟩, hl.symm⟩

theorem mem_importLinks_iff {r : Registry} {l : GraphLink} :
    l ∈ r.importLinks ↔ ∃ m ∈ r.modules.values, ∃ reason ∈ m.reasons,
      ∃ s ∈ r.sourcesOf reason, s ≠ m.fileName ∧
        l = ⟨s, m.fileName, some (reason.carriedFrom s)⟩ := by
  simp only [importLinks, linksOfModule, List.mem_flatMap, mem_linksOfReason_iff]

/-- Import links join real modules. -/
theorem Sound.ends_of_mem_importLinks {r : Registry} (h : r.Sound) {l : GraphLink}
    (hl : l ∈ r.importLinks) : r.contains l.source = true ∧ r.contains l.target = true := by
  obtain ⟨m, hm, reason, _, s, hs, _, rfl⟩ := mem_importLinks_iff.1 hl
  exact ⟨contains_of_mem_sourcesOf hs, h.contains_of_mem_values hm⟩

end Registry

/-! ### With a memory -/

namespace Resolver

theorem linksOfReason_eq (r : Resolver) {target : String} (real : r.registry.contains target = true)
    (reason : Reason) :
    (r.linksOfReason target reason).1 = r.registry.linksOfReason target reason ∧
      (r.linksOfReason target reason).2.registry = r.registry := by
  unfold linksOfReason Registry.linksOfReason Registry.sourcesOf
  cases hs : reason.source? with
  | none => exact ⟨rfl, rfl⟩
  | some o =>
    have ho := (Reason.source?_eq_some_iff.1 hs).1
    by_cases hself : o = target
    -- the resolver skips the reason; without a memory its one source is filtered out
    · subst hself
      simp [real]
    · by_cases hreal : r.registry.contains o = true
      · simp [hself, hreal, Reason.carriedFrom_self ho]
      · by_cases only : r.registry.isWrapper o = true
        · have rerouted : ∀ i ∈ r.registry.importers o,
              reason.carriedFrom i = reason.rerouted o i := by
            intro i hi
            -- an importer is real, so it is not the wrapper that the reason names
            have hi := Registry.contains_of_mem_importers hi
            exact Reason.carriedFrom_of_ne ho fun e => hreal (e ▸ hi)
          simp only [hself, hreal, only, Bool.false_eq_true, if_true, if_false, resolve_fst,
            resolve_registry, and_true]
          apply List.map_congr_left
          intro i hi
          rw [rerouted i (List.mem_filter.1 hi).1]
        · simp [hself, hreal, only]

theorem linksOfReasons_eq (r : Resolver) {target : String}
    (real : r.registry.contains target = true) (reasons : List Reason) :
    (r.linksOfReasons target reasons).1 = reasons.flatMap (r.registry.linksOfReason target) ∧
      (r.linksOfReasons target reasons).2.registry = r.registry := by
  induction reasons generalizing r with
  | nil => exact ⟨rfl, rfl⟩
  | cons reason rest ih =>
    obtain ⟨hlinks, hreg⟩ := r.linksOfReason_eq real reason
    have hrest := ih (r.linksOfReason target reason).2 (by rw [hreg]; exact real)
    rw [hreg] at hrest
    rw [linksOfReasons, List.flatMap_cons]
    exact ⟨by rw [← hlinks, ← hrest.1], hrest.2⟩

theorem linksOfModules_eq (r : Resolver) (ms : List Module)
    (real : ∀ m ∈ ms, r.registry.contains m.fileName = true) :
    (r.linksOfModules ms).1 = ms.flatMap r.registry.linksOfModule := by
  induction ms generalizing r with
  | nil => rfl
  | cons m rest ih =>
    obtain ⟨hlinks, hreg⟩ := r.linksOfReasons_eq (real m List.mem_cons_self) m.reasons
    have hrest := ih (r.linksOfReasons m.fileName m.reasons).2 (by
      intro m' hm'
      rw [hreg]
      exact real m' (List.mem_cons_of_mem _ hm'))
    rw [hreg] at hrest
    rw [linksOfModules, List.flatMap_cons, Registry.linksOfModule, ← hlinks, ← hrest]

end Resolver

end BundleGraph
