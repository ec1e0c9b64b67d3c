import BundleGraph.Proofs.Graph.Imports
import BundleGraph.Proofs.Graph.Store

/-! # What a build leaves in the store

    A build goes through three lists: the chunks, what they carry, and the
    imports. `nodesOf` and `linksOf` say what the store holds when all of them
    went through, whatever sound registry is used (`Resolver.build_cases`).

    With the registry of the same chunks only one thing can go wrong, a real
    module that is named like a chunk (`buildStore_cases`).
-/

namespace BundleGraph

/-! ### Contents -/

namespace Registry

/-- The record that represents a real module: the registered one, if there is one. -/
def represent (r : Registry) (m : Module) : Module := (r.get? m.fileName).getD m

/-- It has the same name and is real as well. -/
theorem Sound.represent_spec {r : Registry} (h : r.Sound) {m : Module}
    (real : m.kind ≠ .concatenated) :
    (r.represent m).fileName = m.fileName ∧ (r.represent m).kind ≠ .concatenated := by
  unfold represent get?
  cases hm : r.modules.lookup? m.fileName with
  | none => exact ⟨rfl, real⟩
  | some m' => exact ⟨(h.real hm).1, (h.real hm).2.2⟩

end Registry

namespace Graph.Store

/-- Adds one real module that a chunk carries, and the link to it. -/
def addContent (r : Registry) (g : Store) (p : Chunk × Module) : Except Violation Store := do
  let g ← g.addModule (r.represent p.2)
  g.addLink p.1.id p.2.fileName none

theorem addContents_eq (r : Registry) (g : Store) (c : Chunk) :
    g.addContents r c = (c.contents.map fun m => (c, m)).foldlM (addContent r) g := by
  rw [List.foldlM_map]
  rfl

theorem foldlM_addContents_eq (r : Registry) (cs : List Chunk) (g : Store) :
    cs.foldlM (addContents r) g
      = (cs.flatMap fun c => c.contents.map fun m => (c, m)).foldlM (addContent r) g := by
  induction cs generalizing g with
  | nil => rfl
  | cons c cs ih =>
    rw [List.foldlM_cons, List.flatMap_cons, List.foldlM_append, addContents_eq]
    congr 1
    funext g'
    exact ih g'

/-- `HoldsChunk nodes id`: the node of the id stands for a chunk. -/
def HoldsChunk (nodes : OrderedMap String NodeData) (id : String) : Prop :=
  ∃ c, nodes.lookup? id = some (.chunk c)

/-- A module that is added takes no id away from a chunk and gives none to one. -/
theorem holdsChunk_insertNew {nodes : OrderedMap String NodeData} {f id : String} {m : Module} :
    HoldsChunk (nodes.insertNew f (.module m)) id ↔ HoldsChunk nodes id := by
  constructor
  · intro h
    obtain ⟨c, hc⟩ := h
    rw [OrderedMap.lookup?_insertNew, Option.or_eq_some_iff] at hc
    rcases hc with hc | ⟨_, hc⟩
    · exact ⟨c, hc⟩
    · split at hc <;> cases hc
  · intro h
    obtain ⟨c, hc⟩ := h
    refine ⟨c, ?_⟩
    rw [OrderedMap.lookup?_insertNew, hc, Option.some_or]

variable {r : Registry} {g : Store}

/-- A module is added with its link, unless its name is that of a chunk. -/
theorem addContent_cases (h : r.Sound) {c : Chunk} {m : Module} (real : m.kind ≠ .concatenated)
    (hc : c.id ∈ g.nodes.keys) :
    (HoldsChunk g.nodes m.fileName ∧
      g.addContent r (c, m) = .error (.kindClash m.fileName .chunk .module)) ∨
    (¬ HoldsChunk g.nodes m.fileName ∧
      ∃ g', g.addContent r (c, m) = .ok g' ∧
        g'.nodes = g.nodes.insertNew m.fileName (.module (r.represent m)) ∧
          g'.links = g.links.insert (c.id, m.fileName) none) := by
  obtain ⟨hname, hreal⟩ := h.represent_spec real
  have hadd : g.addModule (r.represent m) = g.addNode m.fileName (.module (r.represent m)) := by
    rw [addModule_of_real hreal, hname]
  by_cases clash : HoldsChunk g.nodes m.fileName
  · refine Or.inl ⟨clash, ?_⟩
    obtain ⟨c', hold⟩ := clash
    have differ : (NodeData.chunk c').kind ≠ (NodeData.module (r.represent m)).kind := by
      intro h
      cases h
    rw [addContent, hadd, addNode_of_clash hold differ]
    rfl
  · have fits : ∀ old, g.nodes.lookup? m.fileName = some old → old.kind = .module := by
      intro old hold
      cases old with
      | module _ => rfl
      | chunk c' => exact absurd ⟨c', hold⟩ clash
    obtain ⟨g₁, h₁, hn₁, hl₁⟩ := @exists_addNode g m.fileName (.module (r.represent m)) fits
    -- both ends are nodes by now: the chunk was one before, the module has become one
    have hsrc : c.id ∈ g₁.nodes.keys := by
      rw [hn₁, OrderedMap.keys_insertNew]
      split
      · exact hc
      · exact List.mem_append_left _ hc
    have htgt : m.fileName ∈ g₁.nodes.keys := by
      rw [hn₁, OrderedMap.keys_insertNew]
      split
      · assumption
      · simp
    obtain ⟨g', hg, hn, hl⟩ := exists_addLink hsrc htgt none
    refine Or.inr ⟨clash, g', ?_, hn.trans hn₁, by rw [hl, hl₁]⟩
    rw [addContent, hadd, h₁, ok_bind, hg]

/-- So are several modules, unless one of them has the name of a chunk. -/
theorem foldlM_addContent_cases (h : r.Sound) (ps : List (Chunk × Module))
    (real : ∀ p ∈ ps, p.2.kind ≠ .concatenated) (hc : ∀ p ∈ ps, p.1.id ∈ g.nodes.keys) :
    (∃ p ∈ ps, HoldsChunk g.nodes p.2.fileName ∧
      ps.foldlM (addContent r) g = .error (.kindClash p.2.fileName .chunk .module)) ∨
    ((∀ p ∈ ps, ¬ HoldsChunk g.nodes p.2.fileName) ∧
      ∃ g', ps.foldlM (addContent r) g = .ok g' ∧
        g'.nodes = g.nodes.insertAllNew
          (ps.map fun p => (p.2.fileName, .module (r.represent p.2))) ∧
        g'.links = g.links.insertAll (ps.map fun p => ((p.1.id, p.2.fileName), none))) := by
  induction ps generalizing g with
  | nil => exact Or.inr ⟨by simp, g, rfl, rfl, rfl⟩
  | cons p ps ih =>
    rw [List.foldlM_cons]
    rcases addContent_cases h (real p List.mem_cons_self) (hc p List.mem_cons_self) with
      ⟨clash, herr⟩ | ⟨free, g₁, h₁, hn₁, hl₁⟩
    · exact Or.inl ⟨p, List.mem_cons_self, clash, by rw [herr, error_bind]⟩
    · -- the first module changes no chunk, so the others meet the same chunks as before
      have hc₁ : ∀ q ∈ ps, q.1.id ∈ g₁.nodes.keys := by
        intro q hq
        rw [hn₁, OrderedMap.keys_insertNew]
        split
        · exact hc q (List.mem_cons_of_mem _ hq)
        · exact List.mem_append_left _ (hc q (List.mem_cons_of_mem _ hq))
      have same : ∀ f, HoldsChunk g₁.nodes f ↔ HoldsChunk g.nodes f := by
        intro f
        rw [hn₁]
        exact holdsChunk_insertNew
      rw [h₁, ok_bind]
      rcases ih (fun q hq => real q (List.mem_cons_of_mem _ hq)) hc₁ with
        ⟨q, hq, clash, herr⟩ | ⟨frees, g', hg, hn, hl⟩
      · exact Or.inl ⟨q, List.mem_cons_of_mem _ hq, (same _).1 clash, herr⟩
      · refine Or.inr ⟨?_, g', hg, ?_, ?_⟩
        · rw [List.forall_mem_cons]
          exact ⟨free, fun q hq hch => frees q hq ((same _).2 hch)⟩
        · rw [hn, hn₁]
          rfl
        · rw [hl, hl₁]
          rfl

end Graph.Store

/-! ### The whole build -/

open BundleGraph.Graph

/-- `Collides chunks id`: a chunk has the id, which is not empty, and a chunk with a name bundles a
    real module that is called the same. -/
def Collides (chunks : List Chunk) (id : String) : Prop :=
  (∃ c ∈ chunks, c.id ≠ "" ∧ c.id = id) ∧ ∃ c ∈ chunks, c.id ≠ "" ∧ c.Bundles id

/-- The nodes of the chunks with a name. -/
def chunkNodes (chunks : List Chunk) : OrderedMap String NodeData :=
  .ofListFirst ((chunks.filter fun c => c.id ≠ "").map fun c => (c.id, .chunk c))

/-- The nodes of the chunks with a name and of what they carry. -/
def nodesOf (r : Registry) (chunks : List Chunk) : OrderedMap String NodeData :=
  (chunkNodes chunks).insertAllNew
    ((contentsOf chunks).map fun p => (p.2.fileName, .module (r.represent p.2)))

/-- The links from the chunks with a name to what they carry. -/
def containment (chunks : List Chunk) : OrderedMap (String × String) (Option Reason) :=
  OrderedMap.empty.insertAll ((contentsOf chunks).map fun p => ((p.1.id, p.2.fileName), none))

/-- All links: those of the contents, then the imports. -/
def linksOf (r : Registry) (chunks : List Chunk) : OrderedMap (String × String) (Option Reason) :=
  (containment chunks).insertAll (r.importLinks.map fun l => ((l.source, l.target), l.reason))

theorem mem_keys_chunkNodes_iff {chunks : List Chunk} {id : String} :
    id ∈ (chunkNodes chunks).keys ↔ ∃ c ∈ chunks, c.id ≠ "" ∧ c.id = id := by
  rw [chunkNodes, OrderedMap.keys_ofListFirst, List.mem_eraseDups, List.map_map]
  simp only [List.mem_map, List.mem_filter, Function.comp_apply, decide_eq_true_eq, and_assoc]

theorem holdsChunk_chunkNodes_iff {chunks : List Chunk} {id : String} :
    Store.HoldsChunk (chunkNodes chunks) id ↔ ∃ c ∈ chunks, c.id ≠ "" ∧ c.id = id := by
  rw [← mem_keys_chunkNodes_iff]
  constructor
  · intro h
    obtain ⟨c, hc⟩ := h
    exact OrderedMap.mem_keys_of_lookup? hc
  · intro hid
    obtain ⟨d, hd⟩ := OrderedMap.exists_lookup?_of_mem_keys hid
    have hmem := hd
    rw [chunkNodes, OrderedMap.lookup?_ofListFirst] at hmem
    obtain ⟨c, _, hc⟩ := List.mem_map.1 (OrderedMap.mem_of_find_eq_some hmem)
    cases hc
    exact ⟨c, hd⟩

/-- The nodes are the chunks with a name and what they bundle. -/
theorem mem_keys_nodesOf_iff {r : Registry} {chunks : List Chunk} {id : String} :
    id ∈ (nodesOf r chunks).keys ↔
      (∃ c ∈ chunks, c.id ≠ "" ∧ c.id = id) ∨ ∃ c ∈ chunks, c.id ≠ "" ∧ c.Bundles id := by
  rw [nodesOf, OrderedMap.keys_insertAllNew, List.mem_eraseDups, List.mem_append,
    mem_keys_chunkNodes_iff, ← Registry.contains_build_iff, Registry.contains_iff,
    Registry.keys_modules_build, List.mem_eraseDups, List.map_map]
  rfl

/-- What a resolver builds depends on its registry only. -/
theorem Resolver.fst_build (r : Resolver) (hs : r.registry.Sound) (chunks : List Chunk) :
    (r.build chunks).1 = (do
      let g ← (chunks.filter fun c => c.id ≠ "").foldlM Store.addChunk .empty
      let g ← (chunks.filter fun c => c.id ≠ "").foldlM (Store.addContents r.registry) g
      r.registry.importLinks.foldlM (fun g l => g.addLink l.source l.target l.reason) g) := by
  have himports : (r.linksOfModules r.registry.modules.values).1 = r.registry.importLinks :=
    r.linksOfModules_eq _ fun m hm => hs.contains_of_mem_values hm
  rw [← himports]
  rfl

/-- Before the imports, a build fails on a collision and otherwise has all nodes and the links to
    the contents. -/
theorem Resolver.build_cases (r : Resolver) (hs : r.registry.Sound) (chunks : List Chunk) :
    (∃ id, Collides chunks id ∧ (r.build chunks).1 = .error (.kindClash id .chunk .module)) ∨
    ((∀ id, ¬ Collides chunks id) ∧
      ∃ g : Store, g.nodes = nodesOf r.registry chunks ∧ g.links = containment chunks ∧
        (r.build chunks).1 = r.registry.importLinks.foldlM
          (fun g l => g.addLink l.source l.target l.reason) g) := by
  obtain ⟨g₁, h₁, hn₁, hl₁⟩ := Store.exists_foldlM_addChunk
    (chunks.filter fun c => c.id ≠ "") (g := Store.empty) (fun id d hd => by cases hd)
  -- after the chunks, the build is one run over all contents and one over all imports
  have hbuild : (r.build chunks).1 =
      ((contentsOf chunks).foldlM (Store.addContent r.registry) g₁ >>= fun g =>
        r.registry.importLinks.foldlM (fun g l => g.addLink l.source l.target l.reason) g) := by
    rw [r.fst_build hs, contentsOf, ← Store.foldlM_addContents_eq, h₁, ok_bind]
  have hchunks : g₁.nodes = chunkNodes chunks := hn₁
  have hmem : ∀ p ∈ contentsOf chunks,
      (p.1 ∈ chunks ∧ p.1.id ≠ "") ∧ p.2 ∈ p.1.contents := fun p hp => mem_contentsOf_iff.1 hp
  rcases Store.foldlM_addContent_cases (g := g₁) hs (contentsOf chunks)
    (fun p hp => (Chunk.mem_contents_iff.1 (hmem p hp).2).2.1)
    (fun p hp => by
      rw [hchunks, mem_keys_chunkNodes_iff]
      exact ⟨p.1, (hmem p hp).1.1, (hmem p hp).1.2, rfl⟩) with
    ⟨p, hp, clash, herr⟩ | ⟨free, g₂, h₂, hn₂, hl₂⟩
  · rw [hchunks, holdsChunk_chunkNodes_iff] at clash
    refine Or.inl ⟨p.2.fileName, ⟨clash, ?_⟩, by rw [hbuild, herr, error_bind]⟩
    exact ⟨p.1, (hmem p hp).1.1, (hmem p hp).1.2, Chunk.bundles_iff.2 ⟨p.2, (hmem p hp).2, rfl⟩⟩
  · refine Or.inr ⟨?_, g₂, by rw [hn₂, hchunks, nodesOf], by rw [hl₂, hl₁]; rfl,
      by rw [hbuild, h₂, ok_bind]⟩
    intro id h
    obtain ⟨hid, c, hc, hne, hb⟩ := h
    obtain ⟨m, hm, rfl⟩ := Chunk.bundles_iff.1 hb
    apply free (c, m) (mem_contentsOf_iff.2 ⟨⟨hc, hne⟩, hm⟩)
    rw [hchunks, holdsChunk_chunkNodes_iff]
    exact hid

/-! ### With the registry of the same chunks -/

/-- The store of a list of chunks, before it is handed on as a finished graph. -/
def buildStore (chunks : List Chunk) : Except Violation Store :=
  ((Resolver.ofRegistry (.build chunks)).build chunks).1

theorem buildGraph_eq (chunks : List Chunk) :
    buildGraph chunks = (buildStore chunks).map Store.toGraphData := rfl

theorem buildGraph_eq_ok_iff {chunks : List Chunk} {d : GraphData} :
    buildGraph chunks = .ok d ↔ ∃ g, buildStore chunks = .ok g ∧ d = g.toGraphData := by
  rw [buildGraph_eq]
  cases buildStore chunks with
  | error v => simp [Except.map]
  | ok g => simp [Except.map, eq_comm]

/-- A build with the registry of the same chunks fails on a collision and otherwise goes through:
    what the imports name has been carried, so it is a node. -/
theorem buildStore_cases (chunks : List Chunk) :
    (∃ id, Collides chunks id ∧ buildStore chunks = .error (.kindClash id .chunk .module)) ∨
    ((∀ id, ¬ Collides chunks id) ∧
      ∃ g, buildStore chunks = .ok g ∧ g.nodes = nodesOf (.build chunks) chunks ∧
        g.links = linksOf (.build chunks) chunks) := by
  have hs := Registry.build_sound chunks
  rcases (Resolver.ofRegistry (.build chunks)).build_cases hs chunks with
    ⟨id, hid, herr⟩ | ⟨free, g₂, hn₂, hl₂, hbuild⟩
  · exact Or.inl ⟨id, hid, herr⟩
  -- the ends of an import are real modules, and these were carried by some chunk
  · have ends : ∀ l ∈ (Registry.build chunks).importLinks,
        l.source ∈ g₂.nodes.keys ∧ l.target ∈ g₂.nodes.keys := by
      intro l hl
      have hreal := hs.ends_of_mem_importLinks hl
      rw [hn₂, mem_keys_nodesOf_iff, mem_keys_nodesOf_iff, ← Registry.contains_build_iff,
        ← Registry.contains_build_iff]
      exact ⟨Or.inr hreal.1, Or.inr hreal.2⟩
    obtain ⟨g, hg, hn, hl⟩ := Store.exists_foldlM_addLink ends
    refine Or.inr ⟨free, g, hbuild.trans hg, hn.trans hn₂, ?_⟩
    rw [hl, hl₂]
    rfl

end BundleGraph
