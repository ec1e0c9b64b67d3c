import BundleGraph.Proofs.Registry
import BundleGraph.Proofs.Worklist
import Mathlib.Data.List.Chain

/-! # Importers and routes

    `Registry.Leads` says when a name pulls in what stands under another name. A
    route is a path of such steps between two names on which only wrappers lie
    in between.

    The importers of a wrapper are the real modules with a route to it
    (`mem_importers_iff`, `chain_iff_route`): the search over the wrappers
    behind it misses none, whatever cycles the reasons form.
-/

namespace BundleGraph

theorem Reason.source?_eq_some_iff {reason : Reason} {o : String} :
    reason.source? = some o ↔ reason.origin = some o ∧ o ≠ "" := by
  rw [Reason.source?, Option.filter_eq_some_iff]
  simp

theorem Module.mem_inbound_iff {w : Module} {o : String} :
    o ∈ w.inbound ↔
      (∃ reason ∈ w.reasons, reason.source? = some o) ∨
        (∃ x, w.Holds x ∧ ∃ reason ∈ x.reasons, reason.source? = some o) ∧
          o ≠ w.fileName ∧ ∀ y, w.Holds y → y.fileName ≠ o := by
  have outside : o ∉ w.insideNames ↔ o ≠ w.fileName ∧ ∀ y, w.Holds y → y.fileName ≠ o := by
    simp only [Module.mem_insideNames_iff, not_or, not_exists, not_and, ne_eq]
  rw [← outside, Module.inbound]
  simp only [List.mem_append, List.mem_filterMap, List.mem_flatMap, List.mem_filter,
    Module.mem_nested_iff, decide_eq_true_eq]
  constructor
  · intro h
    rcases h with h | ⟨x, hx, h, ho⟩
    · exact Or.inl h
    · exact Or.inr ⟨⟨x, hx, h⟩, ho⟩
  · intro h
    rcases h with h | ⟨⟨x, hx, h⟩, ho⟩
    · exact Or.inl h
    · exact Or.inr ⟨x, hx, h, ho⟩

namespace Registry

/-! ### Steps -/

/-- `r.Leads o x`: a reason that comes from `o` pulls in what stands under `x`. For a name that only
    a wrapper has, the reasons of everything nested in the wrapper count as well, as far as they
    come from outside of it. -/
inductive Leads (r : Registry) (o : String) : String → Prop where
  | toModule {t : String} {m : Module} {reason : Reason} (hm : r.modules.lookup? t = some m)
      (hr : reason ∈ m.reasons) (ho : reason.origin = some o) (named : o ≠ "") : Leads r o t
  | toWrapper {x : String} {w : Module} {reason : Reason} (only : r.isWrapper x = true)
      (hw : r.wrappers.lookup? x = some w) (hr : reason ∈ w.reasons)
      (ho : reason.origin = some o) (named : o ≠ "") : Leads r o x
  | intoWrapper {x : String} {w sub : Module} {reason : Reason} (only : r.isWrapper x = true)
      (hw : r.wrappers.lookup? x = some w) (hsub : w.Holds sub) (hr : reason ∈ sub.reasons)
      (ho : reason.origin = some o) (named : o ≠ "") (notSelf : o ≠ x)
      (outside : ∀ y, w.Holds y → y.fileName ≠ o) : Leads r o x

/-- `r.Brings o x`: a reason that comes from `o` brings in the wrapper that is registered under `x`.
    It is a reason of the wrapper itself, or of something nested in it if it comes from outside. -/
inductive Brings (r : Registry) (o x : String) : Prop where
  | own {w : Module} {reason : Reason} (hw : r.wrappers.lookup? x = some w)
      (hr : reason ∈ w.reasons) (ho : reason.origin = some o) (named : o ≠ "")
  | nested {w sub : Module} {reason : Reason} (hw : r.wrappers.lookup? x = some w)
      (hsub : w.Holds sub) (hr : reason ∈ sub.reasons) (ho : reason.origin = some o)
      (named : o ≠ "") (notSelf : o ≠ x) (outside : ∀ y, w.Holds y → y.fileName ≠ o)

/-- Into a real module lead the reasons that are registered with it. -/
theorem leads_module_iff {r : Registry} {o t : String} (real : r.contains t = true) :
    r.Leads o t ↔ ∃ m, r.modules.lookup? t = some m ∧
      ∃ reason ∈ m.reasons, reason.source? = some o := by
  constructor
  · intro h
    cases h with
    | toModule hm hr ho hne => exact ⟨_, hm, _, hr, Reason.source?_eq_some_iff.2 ⟨ho, hne⟩⟩
    -- the other two steps lead to names that only a wrapper has
    | toWrapper only =>
      rw [not_isWrapper_of_contains real] at only
      cases only
    | intoWrapper only =>
      rw [not_isWrapper_of_contains real] at only
      cases only
  · intro h
    obtain ⟨m, hm, reason, hr, hs⟩ := h
    obtain ⟨ho, hne⟩ := Reason.source?_eq_some_iff.1 hs
    exact .toModule hm hr ho hne

/-- Into a name that only a wrapper has lead the reasons that bring the wrapper in. -/
theorem leads_wrapper_iff_brings {r : Registry} {o x : String} (only : r.isWrapper x = true) :
    r.Leads o x ↔ r.Brings o x := by
  constructor
  · intro h
    cases h with
    | toModule hm => exact absurd (OrderedMap.mem_keys_of_lookup? hm) (isWrapper_iff.1 only).1
    | toWrapper _ hw hr ho hne => exact .own hw hr ho hne
    | intoWrapper _ hw hsub hr ho hne notSelf outside =>
      exact .nested hw hsub hr ho hne notSelf outside
  · intro h
    cases h with
    | own hw hr ho hne => exact .toWrapper only hw hr ho hne
    | nested hw hsub hr ho hne notSelf outside =>
      exact .intoWrapper only hw hsub hr ho hne notSelf outside

/-- What brings a name in is listed only if a wrapper of the name is registered. -/
theorem mem_keys_of_mem_inbound {r : Registry} {o x : String} (h : o ∈ r.inbound x) :
    x ∈ r.wrappers.keys := by
  unfold inbound at h
  split at h
  · rename_i w hw
    exact OrderedMap.mem_keys_of_lookup? hw
  · simp at h

/-- A wrapper is brought in by the names that `inbound` lists. -/
theorem Sound.brings_iff {r : Registry} (h : r.Sound) {o x : String} :
    r.Brings o x ↔ o ∈ r.inbound x := by
  constructor
  · intro hb
    cases hb with
    | own hw hr ho hne =>
      rw [inbound, hw]
      exact Module.mem_inbound_iff.2 (Or.inl ⟨_, hr, Reason.source?_eq_some_iff.2 ⟨ho, hne⟩⟩)
    | nested hw hsub hr ho hne notSelf outside =>
      have hsource := Reason.source?_eq_some_iff.2 ⟨ho, hne⟩
      rw [inbound, hw]
      exact Module.mem_inbound_iff.2
        (Or.inr ⟨⟨_, hsub, _, hr, hsource⟩, (h.wrapper hw).1.symm ▸ notSelf, outside⟩)
  · intro hin
    obtain ⟨w, hw⟩ := OrderedMap.exists_lookup?_of_mem_keys (mem_keys_of_mem_inbound hin)
    rw [inbound, hw] at hin
    rcases Module.mem_inbound_iff.1 hin with
      ⟨reason, hr, hs⟩ | ⟨⟨sub, hsub, reason, hr, hs⟩, notSelf, outside⟩
    · obtain ⟨ho, hne⟩ := Reason.source?_eq_some_iff.1 hs
      exact .own hw hr ho hne
    · obtain ⟨ho, hne⟩ := Reason.source?_eq_some_iff.1 hs
      exact .nested hw hsub hr ho hne ((h.wrapper hw).1 ▸ notSelf) outside

/-- Into a wrapper lead the names that `inbound` lists. -/
theorem Sound.leads_wrapper_iff {r : Registry} (h : r.Sound) {o x : String}
    (only : r.isWrapper x = true) : r.Leads o x ↔ o ∈ r.inbound x := by
  rw [leads_wrapper_iff_brings only, h.brings_iff]

/-! ### The search for importers -/

theorem mem_wrappersBehind_iff {r : Registry} {v x : String} :
    v ∈ r.wrappersBehind x ↔
      Worklist.Reach (fun w => (r.inbound w).filter r.isWrapper) r.wrappers.keys x v := by
  rw [wrappersBehind, List.mem_reverse, Worklist.mem_search_iff]
  simp

/-- The importers of a wrapper are the real modules with a chain to it. -/
theorem mem_importers_iff {r : Registry} {s x : String} :
    s ∈ r.importers x ↔ r.Chain s x := by
  rw [importers, mem_firstOccurrences]
  simp only [List.mem_flatMap, List.mem_filter, mem_wrappersBehind_iff]
  constructor
  · intro h
    obtain ⟨v, hv, hs, real⟩ := h
    -- along the path from `x` to `v`, the chain grows at its end
    induction hv with
    | here _ => exact .direct real hs
    | step _ hb _ ih =>
      obtain ⟨hin, hw⟩ := List.mem_filter.1 hb
      exact .through hw hin (ih hs)
  · intro h
    -- the wrapper with which the chain starts is the one that the search finds
    induction h with
    | direct real hs => exact ⟨_, .here (mem_keys_of_mem_inbound hs), hs, real⟩
    | through hw hin _ ih =>
      obtain ⟨v, hv, hs, real⟩ := ih
      exact ⟨v, .step (mem_keys_of_mem_inbound hin) (List.mem_filter.2 ⟨hin, hw⟩) hv, hs, real⟩

/-! ### Routes -/

/-- `r.Route s ws t`: steps lead from `s` through the wrappers `ws`, in this order, to `t`. -/
def Route (r : Registry) (s : String) (ws : List String) (t : String) : Prop :=
  (∀ w ∈ ws, r.isWrapper w = true) ∧ List.IsChain r.Leads (s :: ws ++ [t])

theorem route_nil_iff {r : Registry} {s t : String} : r.Route s [] t ↔ r.Leads s t := by
  simp [Route]

/-- A route that goes through a last wrapper is a route to it and one more step. -/
theorem route_concat_iff {r : Registry} {s w t : String} {ws : List String} :
    r.Route s (ws ++ [w]) t ↔ r.isWrapper w = true ∧ r.Route s ws w ∧ r.Leads w t := by
  have split : List.IsChain r.Leads (s :: (ws ++ [w]) ++ [t]) ↔
      List.IsChain r.Leads (s :: ws ++ [w]) ∧ r.Leads w t := by
    simp
  simp only [Route, split, List.mem_append, List.mem_singleton]
  constructor
  · intro h
    obtain ⟨hw, hc, hl⟩ := h
    exact ⟨hw w (Or.inr rfl), ⟨fun v hv => hw v (Or.inl hv), hc⟩, hl⟩
  · intro h
    obtain ⟨hw, ⟨hws, hc⟩, hl⟩ := h
    refine ⟨?_, hc, hl⟩
    intro v hv
    rcases hv with hv | rfl
    · exact hws v hv
    · exact hw

/-- A chain to a wrapper is a route from a real module. -/
theorem Sound.chain_iff_route {r : Registry} (h : r.Sound) {s x : String}
    (only : r.isWrapper x = true) :
    r.Chain s x ↔ r.contains s = true ∧ ∃ ws, r.Route s ws x := by
  constructor
  · intro hc
    induction hc with
    | direct real hs => exact ⟨real, [], route_nil_iff.2 ((h.leads_wrapper_iff only).2 hs)⟩
    | through hv hin _ ih =>
      obtain ⟨real, ws, hr⟩ := ih hv
      exact ⟨real, ws ++ [_], route_concat_iff.2 ⟨hv, hr, (h.leads_wrapper_iff only).2 hin⟩⟩
  · intro h
    obtain ⟨real, ws, hr⟩ := h
    -- a chain grows at the wrapper that it leads to, which is the last one of the route
    induction ws using List.reverseRecOn generalizing x with
    | nil => exact .direct real ((h.leads_wrapper_iff only).1 (route_nil_iff.1 hr))
    | append_singleton ws v ih =>
      obtain ⟨hv, hr, hl⟩ := route_concat_iff.1 hr
      exact .through hv ((h.leads_wrapper_iff only).1 hl) (ih hv hr)

end Registry

end BundleGraph
