import BundleGraph.Proofs.Graph.Build

/-! # What a resolver remembers

    A resolver keeps the importers that it was asked for. It makes no difference
    for later answers how often it was asked, for which wrappers and in which
    order: each answer, and the graph that is built at the end, is that of a
    resolver that was never asked (`answers_of_used_resolver`).

    The memory has an entry for each wrapper that a call named, and none for
    wrappers that a search only passed through (`known_resolveAll`). Such a
    wrapper was visited after others, so what the search found from there on
    need not be all of its importers.
-/

namespace BundleGraph

open BundleGraph.Graph

namespace Resolver

/-! ### One call -/

/-- A call adds an entry for the wrapper that it names, unless there is one. -/
theorem known_resolve (r : Resolver) (w : String) :
    (r.resolve w).2.known = r.known.insertNew w (r.registry.importers w) := by
  unfold resolve
  split
  · rename_i found h
    exact (OrderedMap.insertNew_of_mem (OrderedMap.mem_keys_of_lookup? h) _).symm
  · rfl

/-! ### Calls in a row -/

/-- Asks for the importers of wrappers, one after another. -/
def resolveAll (r : Resolver) : List String → List (List String) × Resolver
  | [] => ([], r)
  | w :: rest =>
    let (found, r) := r.resolve w
    let (others, r) := resolveAll r rest
    (found :: others, r)

theorem fst_resolveAll (r : Resolver) (calls : List String) :
    (r.resolveAll calls).1 = calls.map r.registry.importers := by
  induction calls generalizing r with
  | nil => rfl
  | cons w calls ih =>
    have hrest := ih (r.resolve w).2
    rw [resolve_registry] at hrest
    rw [resolveAll, List.map_cons, ← hrest, ← r.resolve_fst w]

@[simp] theorem registry_resolveAll (r : Resolver) (calls : List String) :
    (r.resolveAll calls).2.registry = r.registry := by
  induction calls generalizing r with
  | nil => rfl
  | cons w calls ih => exact (ih (r.resolve w).2).trans (r.resolve_registry w)

/-- Calls add one entry for each wrapper that they name, in the order of the first calls. -/
theorem known_resolveAll (r : Resolver) (calls : List String) : (r.resolveAll calls).2.known =
    r.known.insertAllNew (calls.map fun w => (w, r.registry.importers w)) := by
  induction calls generalizing r with
  | nil => rfl
  | cons w calls ih =>
    have hrest := ih (r.resolve w).2
    rw [resolve_registry, known_resolve] at hrest
    rw [List.map_cons, OrderedMap.insertAllNew_cons, ← hrest]
    rfl

/-- Whatever is remembered of a wrapper are all of its importers. -/
theorem entries_known (r : Resolver) :
    r.known.entries = r.known.keys.map fun w => (w, r.registry.importers w) := by
  rw [OrderedMap.keys, List.map_map]
  have hself : ∀ e ∈ r.known.entries, (e.1, r.registry.importers e.1) = e := by
    intro e he
    rw [← r.sound e he]
  exact ((List.map_congr_left hself).trans (List.map_id _)).symm

/-- What is remembered after calls on a resolver that was never asked: the wrappers that were named,
    in the order of the first calls. -/
theorem keys_known_resolveAll (registry : Registry) (calls : List String) :
    ((ofRegistry registry).resolveAll calls).2.known.keys = calls.eraseDups := by
  rw [known_resolveAll, OrderedMap.keys_insertAllNew, List.map_map]
  simp [ofRegistry, Function.comp_def]

end Resolver

/-- **The memory makes no difference.** Let a resolver with a registry that was built from chunks be
    asked for the importers of wrappers, any number of times in any order, and then build the graph
    of a list of chunks. Each call answers as on a resolver that was never asked, and the graph is
    the one that such a resolver builds, or the same rule is broken. After the calls the resolver
    remembers the wrappers that they named, each with the answer for it, and nothing else. -/
theorem answers_of_used_resolver (source chunks : List Chunk) (calls : List String) :
    ∃ answers used, (Resolver.ofRegistry (.build source)).resolveAll calls = (answers, used) ∧
      answers = calls.map (fun w => ((Resolver.ofRegistry (.build source)).resolve w).1) ∧
      (used.build chunks).1.map Store.toGraphData = buildGraphWith (.build source) chunks ∧
      used.known.entries = calls.eraseDups.map
        fun w => (w, ((Resolver.ofRegistry (.build source)).resolve w).1) := by
  have sound := Registry.build_sound source
  refine ⟨_, _, rfl, ?_, ?_, ?_⟩
  · rw [Resolver.fst_resolveAll]
    simp only [Resolver.resolve_fst]
  · have hused := Resolver.registry_resolveAll (.ofRegistry (.build source)) calls
    rw [Resolver.fst_build _ (by rw [hused]; exact sound), hused, buildGraphWith,
      Resolver.fst_build _ sound]
  · rw [Resolver.entries_known, Resolver.keys_known_resolveAll]
    simp only [Resolver.registry_resolveAll, Resolver.resolve_fst]

end BundleGraph
