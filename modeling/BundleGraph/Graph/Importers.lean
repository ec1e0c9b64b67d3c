import BundleGraph.Registry
import BundleGraph.Worklist

/-! # Importers of a wrapper

    A reason may name a wrapper, which is no node. What really pulls a module in
    is then found by going back from the wrapper: through the reasons that bring
    the wrapper in from outside, and through the wrappers that these name, until
    real modules are reached.

    `Chain` is the relation that this computes; `importers` searches breadth
    first, so importers with shorter chains come first. `Resolver` keeps what it
    found, and its field `sound` says that what it keeps is what a search finds.
-/

namespace BundleGraph

/-! ### Inbound reasons -/

/-- All modules nested in a module, in pre-order. -/
def Module.nested (m : Module) : List Module := Module.parts.below m

/-- Names of a wrapper and of everything nested in it. -/
def Module.insideNames (w : Module) : List String := w.fileName :: w.nested.map Module.fileName

/-- The name of the module that a reason comes from, if it has one. -/
def Reason.source? (r : Reason) : Option String := r.origin.filter fun o => o ≠ ""

/-- Names of the modules that bring a wrapper in: the sources of its own reasons, and the sources
    of the reasons of everything nested in it as far as they lie outside. -/
def Module.inbound (w : Module) : List String :=
  w.reasons.filterMap Reason.source? ++
    w.nested.flatMap fun sub =>
      (sub.reasons.filterMap Reason.source?).filter fun o => o ∉ w.insideNames

namespace Registry

/-- Names of the modules that bring the wrapper of a name in; none if there is no wrapper. -/
def inbound (r : Registry) (name : String) : List String :=
  match r.wrappers.lookup? name with
  | some w => w.inbound
  | none => []

/-- `Chain r s w`: the real module `s` brings the wrapper `w` in, directly or through wrappers. -/
inductive Chain (r : Registry) : String → String → Prop where
  | direct {s w : String} (real : r.contains s = true) (h : s ∈ r.inbound w) : Chain r s w
  | through {s v w : String} (wrapper : r.isWrapper v = true) (h : v ∈ r.inbound w)
      (c : Chain r s v) : Chain r s w

/-! ### Search -/

/-- Wrappers that bring the wrapper of a name in, itself first, breadth first. -/
def wrappersBehind (r : Registry) (name : String) : List String :=
  (Worklist.search (fun w => (r.inbound w).filter r.isWrapper) r.wrappers.keys [name] []).reverse

/-- Real modules that bring the wrapper of a name in, those with the shortest chains first. -/
def importers (r : Registry) (name : String) : List String :=
  firstOccurrences ((r.wrappersBehind name).flatMap fun w => (r.inbound w).filter r.contains)

end Registry

/-! ### Remembered searches -/

/-- A registry with the importers that were searched for. -/
structure Resolver where
  registry : Registry
  /-- Importers by name of the wrapper. -/
  known : OrderedMap String (List String)
  /-- What is known is what a search finds. -/
  sound : ∀ e ∈ known.entries, e.2 = registry.importers e.1

namespace Resolver

/-- A resolver that searched for nothing. -/
def ofRegistry (r : Registry) : Resolver := ⟨r, .empty, by simp [OrderedMap.empty]⟩

/-- Importers of the wrapper of a name, from memory if they are known. -/
def resolve (r : Resolver) (name : String) : List String × Resolver :=
  match r.known.lookup? name with
  | some found => (found, r)
  | none =>
    let found := r.registry.importers name
    (found, {
      registry := r.registry
      known := r.known.insertNew name found
      sound := by
        intro e he
        have h : (r.known.insertNew name found).lookup? e.1 = some e.2 :=
          (OrderedMap.mem_entries_iff _ _ _).1 he
        rw [OrderedMap.lookup?_insertNew] at h
        cases hk : r.known.lookup? e.1 with
        | some found' =>
          rw [hk] at h
          simp only [Option.some_or, Option.some.injEq] at h
          rw [← h]
          exact r.sound (e.1, found') ((OrderedMap.mem_entries_iff _ _ _).2 hk)
        | none =>
          rw [hk] at h
          by_cases hn : e.1 = name
          · simp [hn] at h
            rw [hn, ← h]
          · simp [hn] at h })

@[simp] theorem resolve_fst (r : Resolver) (name : String) :
    (r.resolve name).1 = r.registry.importers name := by
  unfold resolve
  split
  · rename_i found h
    exact r.sound (name, found) ((OrderedMap.mem_entries_iff _ _ _).2 h)
  · rfl

@[simp] theorem resolve_registry (r : Resolver) (name : String) :
    (r.resolve name).2.registry = r.registry := by
  unfold resolve
  split <;> rfl

end Resolver

end BundleGraph
