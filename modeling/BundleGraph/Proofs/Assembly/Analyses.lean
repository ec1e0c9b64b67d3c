import BundleGraph.BuildReport
import BundleGraph.Proofs.Assembly.Modules
import BundleGraph.Proofs.OrderedMap

/-! # The table of analyses

    Assembly analyses a source when it first comes to a record of its name, and
    looks the name up from then on. That makes the table depend on all records
    before, across wrappers and chunks. What is made depends on less: it is what
    comes out if the first record of every name is analysed beforehand
    (`Assembler.agrees_chunks`).

    The induction follows the records in the order in which assembly comes to them.
    A step agrees with its counterpart (`Assembly.Agrees`) if it fails like it, or
    has the same value and leaves the outcomes for the records up to there. The
    table that is given beforehand may hold more: it has to keep what has been
    entered so far (`Outcomes.Keeps`), and that is all it is asked for.
-/

namespace BundleGraph

open Stats

/-! ### Tables -/

/-- The table of analyses that went well. -/
def Analyses.outcomes (s : Analyses) : Outcomes := s.mapValues .ok

theorem Analyses.outcomes_inj {s s' : Analyses} (h : s.outcomes = s'.outcomes) : s = s' := by
  have hinj : Function.Injective fun e : String × Exports.ModuleExports =>
      (e.1, (.ok e.2 : Except AssemblyError Exports.ModuleExports)) := by
    intro e e' he
    simpa [Prod.ext_iff] using he
  exact OrderedMap.ext (hinj.list_map (congrArg OrderedMap.entries h))

/-- `t.Keeps t'`: what `t` has of a name, `t'` has as well. -/
def Outcomes.Keeps (t t' : Outcomes) : Prop :=
  ∀ f o, t.lookup? f = some o → t'.lookup? f = some o

namespace Assembler

/-- The table once the records have been come to: a source whose name is new is entered with the
    outcome of its analysis. -/
def enter (a : Assembler) (t : Outcomes) (rs : List ModuleRecord) : Outcomes :=
  t.insertAllNew ((rs.filter ModuleRecord.isSource).map fun r => (r.fileName, a.analyze r))

variable {a : Assembler} {t : Outcomes}

theorem enter_append (t : Outcomes) (rs rs' : List ModuleRecord) :
    a.enter t (rs ++ rs') = a.enter (a.enter t rs) rs' := by
  rw [enter, List.filter_append, List.map_append, OrderedMap.insertAllNew_append, enter, enter]

theorem enter_source {r : ModuleRecord} (h : r.isSource = true) :
    a.enter t [r] = t.insertNew r.fileName (a.analyze r) := by
  rw [enter, List.filter_cons_of_pos h]
  rfl

theorem enter_other {r : ModuleRecord} (h : r.isSource = false) : a.enter t [r] = t := by
  rw [enter, List.filter_cons_of_neg (by rw [h]; nofun)]
  rfl

theorem keeps_enter (t : Outcomes) (rs : List ModuleRecord) : t.Keeps (a.enter t rs) := by
  intro f o h
  rw [enter, OrderedMap.lookup?_insertAllNew, h]
  rfl

/-- A wrapper is no source, and nothing else has records in it that are come to. So it does not
    matter that a wrapper comes after what is in it. -/
theorem enter_visit (t : Outcomes) (r : ModuleRecord) :
    a.enter t (ModuleRecord.carried.visit r) =
      a.enter (a.enter t (ModuleRecord.carried.walk (ModuleRecord.carried.children r))) [r] := by
  rw [Unfolding.visit_eq, Unfolding.below]
  by_cases hr : r.kind = .concatenated
  · -- the wrapper enters nothing, neither before its modules nor after them
    have hsource : r.isSource = false := by simp [ModuleRecord.isSource, hr]
    rw [enter_other hsource, ← List.singleton_append, enter_append, enter_other hsource]
  · rw [ModuleRecord.children_carried_of_single hr, Unfolding.walk_nil]
    rfl

end Assembler

/-! ### Steps that agree -/

/-- `x.Agrees s y t`: from the table `s` on, the step does what `y` says. If it does not fail, it
    leaves a table with the outcomes `t`. -/
inductive Assembly.Agrees {α : Type} (x : Assembly α) (s : Analyses) :
    Except AssemblyError α → Outcomes → Prop where
  | failed {e : AssemblyError} {t : Outcomes} (h : x.run s = .error e) : Agrees x s (.error e) t
  | done {v : α} {s' : Analyses} (h : x.run s = .ok (v, s')) : Agrees x s (.ok v) s'.outcomes

namespace Assembly.Agrees

variable {α β : Type} {x : Assembly α} {y : Except AssemblyError α} {s : Analyses} {t t' : Outcomes}

theorem pure (v : α) (s : Analyses) : Agrees (pure v) s (.ok v) s.outcomes := .done rfl

/-- A step that does not look at the table. -/
theorem lift (y : Except AssemblyError α) (s : Analyses) :
    Agrees (liftM y) s y s.outcomes := by
  cases y with
  | error e => exact .failed rfl
  | ok v => exact .done rfl

theorem bind {f : α → Assembly β} {g : α → Except AssemblyError β} (h : x.Agrees s y t)
    (hf : ∀ v s', s'.outcomes = t → (f v).Agrees s' (g v) t') :
    (x >>= f).Agrees s (y >>= g) t' := by
  cases h with
  | failed h =>
    refine .failed ?_
    rw [StateT.run_bind, h]
    rfl
  | @done v s' h =>
    have hrun : (x >>= f).run s = (f v).run s' := by
      rw [StateT.run_bind, h]
      rfl
    rw [ok_bind]
    generalize hgv : g v = gv
    have hnext := hf v s' rfl
    rw [hgv] at hnext
    cases hnext with
    | failed h' => exact .failed (hrun.trans h')
    | done h' => exact .done (hrun.trans h')

/-- What comes out if the table is not asked for. -/
theorem run'_eq (h : x.Agrees s y t) : x.run' s = y := by
  cases h with
  | failed h => exact congrArg (Functor.map Prod.fst) h
  | done h => exact congrArg (Functor.map Prod.fst) h

theorem exists_run (h : x.Agrees s y t) {v : α} (hy : y = .ok v) :
    ∃ s', x.run s = .ok (v, s') ∧ s'.outcomes = t := by
  cases h with
  | failed h => cases hy
  | done h =>
    obtain rfl := Except.ok.inj hy
    exact ⟨_, h, rfl⟩

theorem eq_ok (h : x.Agrees s y t) {v : α} {s' : Analyses} (hx : x.run s = .ok (v, s')) :
    y = .ok v := by
  cases h with
  | failed h =>
    rw [h] at hx
    cases hx
  | done h =>
    rw [h] at hx
    exact congrArg (fun p => Except.ok p.1) (Except.ok.inj hx)

end Assembly.Agrees

/-! ### From module to module -/

namespace Assembler

variable {a : Assembler} {p : Prepared}

theorem run_exportsOf_known {r : ModuleRecord} {s : Analyses} {known : Exports.ModuleExports}
    (hsource : r.isSource = true) (hknown : s.lookup? r.fileName = some known) :
    (a.exportsOf r).run s = .ok (known, s) := by
  simp only [exportsOf, hsource, if_true, StateT.run_bind, StateT.run_get, pure_bind, hknown]
  rfl

theorem run_exportsOf_new {r : ModuleRecord} {s : Analyses} (hsource : r.isSource = true)
    (hnew : s.lookup? r.fileName = none) :
    (a.exportsOf r).run s =
      (a.analyze r).map fun found => (found, s.insert r.fileName found) := by
  simp only [exportsOf, hsource, if_true, StateT.run_bind, StateT.run_get, pure_bind, hnew]
  cases a.analyze r <;> rfl

/-- An analysis is made where the name is new, and looked up where it is not. -/
theorem agrees_exportsOf (r : ModuleRecord) (s : Analyses)
    (h : (a.enter s.outcomes [r]).Keeps p.table) :
    (a.exportsOf r).Agrees s (p.exportsOf r.kind r.fileName) (a.enter s.outcomes [r]) := by
  cases hsource : r.isSource with
  | false =>
    have hnone : ¬ (r.kind = .normal ∧ r.fileName ≠ "") := by
      simpa [ModuleRecord.isSource] using hsource
    rw [exportsOf, hsource, Prepared.exportsOf, if_neg hnone, enter_other hsource]
    exact .pure _ s
  | true =>
    have hsome : r.kind = .normal ∧ r.fileName ≠ "" := by
      simpa [ModuleRecord.isSource] using hsource
    rw [enter_source hsource] at h ⊢
    have hgiven : p.exportsOf r.kind r.fileName =
        (p.table.lookup? r.fileName).getD (.ok .empty) := if_pos hsome
    cases hknown : s.lookup? r.fileName with
    | some known =>
      have hmem : r.fileName ∈ s.outcomes.keys := by
        rw [Analyses.outcomes, OrderedMap.keys_mapValues]
        exact OrderedMap.mem_keys_of_lookup? hknown
      rw [OrderedMap.insertNew_of_mem hmem] at h ⊢
      -- what has been entered of the name is what `p` has of it
      have hlookup : s.outcomes.lookup? r.fileName = some (.ok known) := by
        rw [Analyses.outcomes, OrderedMap.lookup?_mapValues, hknown]
        rfl
      rw [hgiven, h _ _ hlookup]
      exact .done (run_exportsOf_known hsource hknown)
    | none =>
      have hnew : r.fileName ∉ s.keys := (OrderedMap.lookup?_eq_none_iff _ _).1 hknown
      have hlookup : (s.outcomes.insertNew r.fileName (a.analyze r)).lookup? r.fileName =
          some (a.analyze r) := by
        rw [OrderedMap.lookup?_insertNew, Analyses.outcomes, OrderedMap.lookup?_mapValues, hknown,
          if_pos rfl]
        rfl
      rw [hgiven, h _ _ hlookup, Option.getD_some]
      have hrun := run_exportsOf_new (a := a) hsource hknown
      cases hfound : a.analyze r with
      | error e =>
        rw [hfound] at hrun
        exact .failed hrun
      | ok found =>
        rw [hfound] at hrun
        have hentered : Analyses.outcomes (s.insert r.fileName found) =
            s.outcomes.insertNew r.fileName (.ok found) := by
          have hinsert : s.insert r.fileName found = s.insertNew r.fileName found := if_neg hnew
          rw [Analyses.outcomes, hinsert, OrderedMap.mapValues_insertNew]
          rfl
        rw [← hentered]
        exact .done hrun

/-- Both have one size report and the same markers. -/
structure Shares (a : Assembler) (p : Prepared) : Prop where
  sizes : p.sizes = a.sizes
  markers : p.markers = a.markers

/-- The modules that the module of a record holds, assembled before it. -/
def heldBy (a : Assembler) (chunk : String) (r : ModuleRecord) : Assembly (List Module) :=
  if r.kind = .concatenated then a.modules chunk (some r.fileName) r.modules else pure []

theorem module_eq (a : Assembler) (chunk : String) (wrapper : Option String) (r : ModuleRecord) :
    a.module chunk wrapper r = (do
      let subModules ← a.heldBy chunk r
      let exports ← a.exportsOf r
      let sizes ← sizesIn a.sizes chunk (sizeNeedle r.kind wrapper r.fileName)
      return r.made subModules exports sizes) := by
  obtain ⟨id, kind, fileName, resource, reasons, usedExports, modules⟩ := r
  rw [module, heldBy]
  split <;> rfl

/-- The step of the induction: a module comes after the modules that it holds. -/
theorem agrees_module_of_heldBy (hp : a.Shares p) {chunk : String} (wrapper : Option String)
    {s : Analyses} {r : ModuleRecord}
    (h : (a.enter s.outcomes (ModuleRecord.carried.visit r)).Keeps p.table)
    (hheld : (a.heldBy chunk r).Agrees s (p.heldBy chunk r)
      (a.enter s.outcomes (ModuleRecord.carried.walk (ModuleRecord.carried.children r)))) :
    (a.module chunk wrapper r).Agrees s (p.module chunk wrapper r)
      (a.enter s.outcomes (ModuleRecord.carried.visit r)) := by
  rw [enter_visit] at h ⊢
  rw [module_eq, Prepared.module_eq, hp.sizes]
  refine hheld.bind fun subModules s₁ hs₁ => ?_
  -- from here on everything is told from the table that the modules below have left
  rw [← hs₁] at h ⊢
  refine (agrees_exportsOf r s₁ h).bind fun exports s₂ hs₂ => ?_
  rw [← hs₂]
  refine (Assembly.Agrees.lift _ s₂).bind fun sizes s₃ hs₃ => ?_
  rw [← hs₃]
  exact .pure _ s₃

mutual

/-- A module is made as from a table that has all that is come to on the way. -/
theorem agrees_module (hp : a.Shares p) (chunk : String) (wrapper : Option String)
    (s : Analyses) : ∀ r, (a.enter s.outcomes (ModuleRecord.carried.visit r)).Keeps p.table →
      (a.module chunk wrapper r).Agrees s (p.module chunk wrapper r)
        (a.enter s.outcomes (ModuleRecord.carried.visit r))
  | ⟨id, kind, fileName, resource, reasons, usedExports, modules⟩ => by
    intro h
    apply agrees_module_of_heldBy hp wrapper h
    rw [heldBy, Prepared.heldBy]
    rw [enter_visit] at h
    by_cases hr : kind = .concatenated
    · rw [if_pos hr, if_pos hr]
      rw [ModuleRecord.children_carried_of_wrapper hr] at h ⊢
      exact agrees_modules hp chunk (some fileName) s modules fun f o hf =>
        h f o (keeps_enter _ _ f o hf)
    · rw [if_neg hr, if_neg hr, ModuleRecord.children_carried_of_single hr, Unfolding.walk_nil]
      exact .pure _ s

theorem agrees_modules (hp : a.Shares p) (chunk : String) (wrapper : Option String)
    (s : Analyses) : ∀ rs, (a.enter s.outcomes (ModuleRecord.carried.walk rs)).Keeps p.table →
      (a.modules chunk wrapper rs).Agrees s (p.modules chunk wrapper rs)
        (a.enter s.outcomes (ModuleRecord.carried.walk rs))
  | [] => by
    intro _
    rw [Unfolding.walk_nil]
    exact .pure _ s
  | r :: rs => by
    intro h
    have hwalk : ModuleRecord.carried.walk (r :: rs) =
        ModuleRecord.carried.visit r ++ ModuleRecord.carried.walk rs := by
      rw [Unfolding.walk_eq_flatMap, List.flatMap_cons, ← Unfolding.walk_eq_flatMap]
    rw [hwalk, enter_append] at h ⊢
    rw [modules, Prepared.modules]
    -- what `p` keeps of all records, it keeps of the first one
    refine (agrees_module hp chunk wrapper s r fun f o hf => h f o (keeps_enter _ _ f o hf)).bind
      fun first s₁ hs₁ => ?_
    rw [← hs₁] at h ⊢
    refine (agrees_modules hp chunk wrapper s₁ rs h).bind fun others s₂ hs₂ => ?_
    rw [← hs₂]
    exact .pure _ s₂

end

/-! ### From chunk to chunk -/

theorem agrees_chunk (hp : a.Shares p) (s : Analyses) (c : ChunkRecord)
    (h : (a.enter s.outcomes c.carried).Keeps p.table) :
    (a.chunk c).Agrees s (p.chunk c) (a.enter s.outcomes c.carried) := by
  rw [chunk, Prepared.chunk, hp.sizes, hp.markers]
  refine (agrees_modules hp c.key none s c.modules h).bind fun modules s₁ hs₁ => ?_
  have hs₁ : s₁.outcomes = a.enter s.outcomes c.carried := hs₁
  rw [← hs₁]
  exact .pure _ s₁

theorem agrees_mapM_chunk (hp : a.Shares p) (cs : List ChunkRecord) (s : Analyses)
    (h : (a.enter s.outcomes (cs.flatMap ChunkRecord.carried)).Keeps p.table) :
    Assembly.Agrees (cs.mapM a.chunk) s (cs.mapM p.chunk)
      (a.enter s.outcomes (cs.flatMap ChunkRecord.carried)) := by
  induction cs generalizing s with
  | nil => exact .pure _ s
  | cons c cs ih =>
    rw [List.flatMap_cons, enter_append] at h ⊢
    rw [List.mapM_cons, List.mapM_cons]
    refine (agrees_chunk hp s c fun f o hf => h f o (keeps_enter _ _ f o hf)).bind
      fun first s₁ hs₁ => ?_
    rw [← hs₁] at h ⊢
    refine (ih s₁ h).bind fun others s₂ hs₂ => ?_
    rw [← hs₂]
    exact .pure _ s₂

/-- The first record of every source of a build, analysed beforehand. -/
def prepared (a : Assembler) (s : BuildStats) : Prepared :=
  ⟨s.sources.mapValues a.analyze, a.sizes, a.markers⟩

/-- **The table.** A build is assembled as if the first record of every source had been analysed
    beforehand, and if it does not fail, these are the analyses that were made. -/
theorem agrees_chunks (a : Assembler) (s : BuildStats) :
    (a.chunks s).Agrees .empty ((a.prepared s).chunks s) (s.sources.mapValues a.analyze) := by
  have hall : a.enter (Analyses.outcomes .empty) (s.chunks.flatMap ChunkRecord.carried) =
      s.sources.mapValues a.analyze := by
    rw [BuildStats.sources, OrderedMap.mapValues_ofListFirst, List.map_map]
    rfl
  rw [← hall]
  refine agrees_mapM_chunk ⟨rfl, rfl⟩ s.chunks .empty fun f o hf => ?_
  rw [hall] at hf
  exact hf

/-- Other records than the first of their names are not analysed: the analyses of these may come out
    in any way. -/
theorem prepared_congr {a' : Assembler} {s : BuildStats} (hsizes : a'.sizes = a.sizes)
    (hmarkers : a'.markers = a.markers)
    (h : ∀ f first, s.sources.lookup? f = some first → a'.analyze first = a.analyze first) :
    a'.prepared s = a.prepared s := by
  have htable : s.sources.mapValues a'.analyze = s.sources.mapValues a.analyze := by
    refine OrderedMap.ext (List.map_congr_left fun e he => ?_)
    rw [h e.1 e.2 ((OrderedMap.mem_entries_iff _ _ _).1 he)]
  rw [prepared, htable, hsizes, hmarkers, prepared]

/-- Whatever was analysed before, a chunk that is assembled is one that a table can give. -/
theorem exists_prepared_chunk {c : ChunkRecord} {ch : Chunk} {s s' : Analyses}
    (h : (a.chunk c).run s = .ok (ch, s')) :
    ∃ p : Prepared, p.sizes = a.sizes ∧ p.markers = a.markers ∧ p.chunk c = .ok ch :=
  ⟨⟨a.enter s.outcomes c.carried, a.sizes, a.markers⟩, rfl, rfl,
    (agrees_chunk ⟨rfl, rfl⟩ s c fun _ _ hf => hf).eq_ok h⟩

end Assembler

/-! ### Builds -/

section

variable {lib : Libraries} {disk : Files.Disk} {s : BuildStats} {c : Config}
  {sizes : Sizes.Report} {matcher : ChunkMatcher}

theorem assemble_eq : assemble lib disk s c sizes matcher =
    (((assembler lib disk s c sizes matcher).prepared s).chunks s).mapError
      AssemblyError.toFailure := by
  rw [assemble, (Assembler.agrees_chunks _ s).run'_eq]

/-- The chunks of a build stand side by side with their records. -/
theorem forall₂_chunks {chunks : List Chunk}
    (h : assemble lib disk s c sizes matcher = .ok chunks) :
    List.Forall₂ (fun r ch =>
      ((assembler lib disk s c sizes matcher).prepared s).chunk r = .ok ch) s.chunks chunks := by
  rw [assemble_eq, mapError_eq_ok_iff] at h
  exact Prepared.chunks_eq_ok_iff.1 h

end

end BundleGraph
