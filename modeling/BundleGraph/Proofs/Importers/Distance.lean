import BundleGraph.Proofs.Importers
import BundleGraph.Proofs.Worklist.Distance

/-! # Importers, nearest first

    A trail leads from a module to a wrapper through other wrappers. The search
    for importers finds exactly the real modules at which a trail begins, each
    once, and those with shorter trails first (`resolve_nearest_first`).

    The search goes back from the wrapper, so a trail that grows at its
    beginning is a walk of the search that grows at its end
    (`Sound.exists_trail_iff_behind`).
-/

namespace BundleGraph

namespace Registry

variable {r : Registry}

/-! ### Trails -/

/-- `r.Trail s vs w`: reasons lead from `s` through the wrappers `vs`, in this order, into the
    wrapper that is registered under `w`. In between are only names that no real module has. -/
def Trail (r : Registry) (s : String) (vs : List String) (w : String) : Prop :=
  (∀ v ∈ vs, r.isWrapper v = true) ∧ List.IsChain r.Brings (s :: vs ++ [w])

theorem trail_nil_iff {s w : String} : r.Trail s [] w ↔ r.Brings s w := by
  simp [Trail]

/-- A trail whose first wrapper is `v` is a trail from `v`, and a reason that brings `v` in. -/
theorem trail_cons_iff {s v w : String} {vs : List String} :
    r.Trail s (v :: vs) w ↔ r.isWrapper v = true ∧ r.Brings s v ∧ r.Trail v vs w := by
  simp only [Trail, List.cons_append, List.isChain_cons_cons, List.forall_mem_cons]
  constructor
  · intro h
    obtain ⟨⟨hv, hvs⟩, hs, hchain⟩ := h
    exact ⟨hv, hs, hvs, hchain⟩
  · intro h
    obtain ⟨hv, hs, hvs, hchain⟩ := h
    exact ⟨⟨hv, hvs⟩, hs, hchain⟩

/-! ### Walks of the search -/

/-- `r.Behind w n v`: the search for importers of `w` comes to the wrapper `v` in `n` steps. -/
def Behind (r : Registry) (w : String) (n : Nat) (v : String) : Prop :=
  Worklist.Walk (fun w => (r.inbound w).filter r.isWrapper) r.wrappers.keys w n v

/-- Trails to a wrapper begin where reasons bring in a wrapper that the search comes to, and have as
    many wrappers as the search takes steps. -/
theorem Sound.exists_trail_iff_behind (h : r.Sound) {s w : String} {n : Nat} :
    (∃ vs, r.Trail s vs w ∧ vs.length = n) ↔ ∃ v, r.Behind w n v ∧ s ∈ r.inbound v := by
  constructor
  · intro ht
    obtain ⟨vs, ht, rfl⟩ := ht
    induction vs generalizing s with
    | nil =>
      have hs := h.brings_iff.1 (trail_nil_iff.1 ht)
      exact ⟨w, .here (mem_keys_of_mem_inbound hs), hs⟩
    | cons v vs ih =>
      obtain ⟨hv, hs, ht⟩ := trail_cons_iff.1 ht
      obtain ⟨u, hu, hin⟩ := ih ht
      exact ⟨v, .step hu (List.mem_filter.2 ⟨hin, hv⟩) (isWrapper_iff.1 hv).2, h.brings_iff.1 hs⟩
  · intro hb
    obtain ⟨v, hv, hs⟩ := hb
    induction hv generalizing s with
    | here _ => exact ⟨[], trail_nil_iff.2 (h.brings_iff.2 hs), rfl⟩
    | step _ hv _ ih =>
      obtain ⟨hin, hwrapper⟩ := List.mem_filter.1 hv
      obtain ⟨vs, ht, rfl⟩ := ih hin
      exact ⟨_ :: vs, trail_cons_iff.2 ⟨hwrapper, h.brings_iff.2 hs, ht⟩, rfl⟩

theorem mem_wrappersBehind_iff_behind {v w : String} :
    v ∈ r.wrappersBehind w ↔ ∃ n, r.Behind w n v := by
  rw [mem_wrappersBehind_iff, Worklist.reach_iff_exists_walk]
  rfl

/-- The wrappers behind a wrapper stand in the order of the steps that the search takes to them. -/
theorem pairwise_wrappersBehind (r : Registry) (w : String) : (r.wrappersBehind w).Pairwise
    fun u v => ∀ n, r.Behind w n v → ∃ m ≤ n, r.Behind w m u :=
  Worklist.pairwise_search _ _ w

/-! ### Importers -/

/-- The importers of a wrapper are the real modules at which a trail to it begins. -/
theorem Sound.mem_importers_iff_exists_trail (h : r.Sound) {s w : String} :
    s ∈ r.importers w ↔ r.contains s = true ∧ ∃ vs, r.Trail s vs w := by
  rw [importers, mem_firstOccurrences, List.mem_flatMap]
  simp only [List.mem_filter, mem_wrappersBehind_iff_behind]
  constructor
  · intro hs
    obtain ⟨v, ⟨n, hv⟩, hin, real⟩ := hs
    obtain ⟨vs, ht, -⟩ := h.exists_trail_iff_behind.2 ⟨v, hv, hin⟩
    exact ⟨real, vs, ht⟩
  · intro hs
    obtain ⟨real, vs, ht⟩ := hs
    obtain ⟨v, hv, hin⟩ := h.exists_trail_iff_behind.1 ⟨vs, ht, rfl⟩
    exact ⟨v, ⟨vs.length, hv⟩, hin, real⟩

/-- Importers with shorter trails stand first. -/
theorem Sound.pairwise_importers (h : r.Sound) (w : String) : (r.importers w).Pairwise fun s t =>
    ∀ vs, r.Trail t vs w → ∃ us, r.Trail s us w ∧ us.length ≤ vs.length := by
  have hfirst : (r.importers w).Pairwise fun s t =>
      ∀ v ∈ r.wrappersBehind w, t ∈ (r.inbound v).filter r.contains →
        ∃ u ∈ r.wrappersBehind w, s ∈ (r.inbound u).filter r.contains ∧
          ∀ n, r.Behind w n v → ∃ m ≤ n, r.Behind w m u := by
    rw [importers, firstOccurrences_eq]
    exact pairwise_eraseDups_flatMap (fun _ n hn => ⟨n, le_refl n, hn⟩)
      (r.pairwise_wrappersBehind w)
  refine hfirst.imp_of_mem fun {s t} _ ht hst vs htrail => ?_
  -- the trail from `t` begins at a wrapper `v`; before it or there stands one that `s` brings in
  have real := (h.mem_importers_iff_exists_trail.1 ht).1
  obtain ⟨v, hv, hin⟩ := h.exists_trail_iff_behind.1 ⟨vs, htrail, rfl⟩
  obtain ⟨u, -, hs, hnear⟩ := hst v (mem_wrappersBehind_iff_behind.2 ⟨_, hv⟩)
    (List.mem_filter.2 ⟨hin, real⟩)
  obtain ⟨m, hm, hu⟩ := hnear _ hv
  obtain ⟨us, htrail', rfl⟩ := h.exists_trail_iff_behind.2 ⟨u, hu, (List.mem_filter.1 hs).1⟩
  exact ⟨us, htrail', hm⟩

end Registry

/-- **Nearest first.** A resolver that searched for nothing finds the importers of a wrapper that is
    registered from chunks. It lists each importer once. The importers are the real modules at which
    a trail to the wrapper begins, whatever cycles the wrappers form, however they are nested, and
    whatever reasons name nothing that is registered. An importer stands before another only if for
    each trail from the other one there is a trail from it that is not longer. -/
theorem resolve_nearest_first (chunks : List Chunk) (w : String) :
    ∃ found, ((Resolver.ofRegistry (.build chunks)).resolve w).1 = found ∧ found.Nodup ∧
      (∀ s, s ∈ found ↔
        s ∈ (Registry.build chunks).modules.keys ∧ ∃ vs, (Registry.build chunks).Trail s vs w) ∧
      found.Pairwise fun s t => ∀ vs, (Registry.build chunks).Trail t vs w →
        ∃ us, (Registry.build chunks).Trail s us w ∧ us.length ≤ vs.length := by
  have sound := Registry.build_sound chunks
  refine ⟨_, Resolver.resolve_fst _ w, nodup_firstOccurrences _, fun s => ?_,
    sound.pairwise_importers w⟩
  rw [← Registry.contains_iff]
  exact sound.mem_importers_iff_exists_trail

end BundleGraph
