import BundleGraph.Assembly.Sources
import BundleGraph.Exports.CommonJs
import BundleGraph.Exports.Names
import BundleGraph.Proofs.Nesting
import BundleGraph.Proofs.Traversal

/-! # What is collected in pre-order

    Three kinds of trees are traversed with a stack: the nodes of a source, the
    modules in the record of a build, and what is nested in a wrapper. Whatever
    is collected on the way comes in the order of the traversal: names as the
    source has them, records as the document has them, and after the reasons of a
    wrapper those of what is nested in it.

    Which of these reasons come from outside is asked only when all names inside
    are known (`Module.mem_insideNames_iff`), so the order of the modules does
    not matter for that.
-/

namespace BundleGraph

open Stats

namespace Module

/-- The reasons that bring a wrapper in: its own, and those of everything nested in it as far as
    they come from outside. -/
def inboundReasons (w : Module) : List Reason :=
  w.reasons ++ w.nested.flatMap fun sub =>
    sub.reasons.filter fun r => r.source?.any fun o => o ∉ w.insideNames

/-- What brings a wrapper in are the sources of these reasons. -/
theorem inbound_eq (w : Module) : w.inbound = w.inboundReasons.filterMap Reason.source? := by
  rw [inbound, inboundReasons, List.filterMap_append, List.filterMap_flatMap]
  congr 2
  funext sub
  rw [List.filterMap_filter, List.filter_filterMap]
  congr 1
  funext r
  cases hr : r.source? with
  | none => rfl
  | some o => by_cases ho : o ∈ w.insideNames <;> simp [ho, Option.filter]

end Module

/-- **Pre-order.** Every traversal with a stack ends and visits each place of its tree once, and it
    is the recursive pre-order: for the nodes of a source, for the modules of a record, and for what
    is nested in a module. So the names of a source come in the order in which it has them, the
    modules of a build in the order of the document, and the reasons that bring a wrapper in as they
    stand on it and then on what is nested in it; the names inside it are its own and those at every
    depth below. -/
theorem traversals_preorder :
    (∀ tree : Syntax.Node,
      tree.visit = Syntax.Node.unfolding.preorder tree ∧
      Syntax.Node.unfolding.Traverses [tree] tree.visit ∧
      Exports.moduleNames tree = (Syntax.Node.unfolding.preorder tree).flatMap fun n =>
        if n.kind = .exportStatement then Exports.statementNames n else []) ∧
    (∀ r : ModuleRecord,
      ModuleRecord.parts.visit r = ModuleRecord.parts.preorder r ∧
      ModuleRecord.parts.Traverses [r] (ModuleRecord.parts.visit r)) ∧
    (∀ s : BuildStats,
      s.namedModules = (s.chunks.flatMap fun c =>
        c.modules.flatMap ModuleRecord.parts.preorder).filter fun r => r.fileName ≠ "") ∧
    ∀ w : Module,
      w.nested = w.subModules.flatMap Module.parts.preorder ∧
      Module.parts.Traverses w.subModules w.nested ∧
      (∀ name, name ∈ w.insideNames ↔ name = w.fileName ∨ ∃ m, w.Holds m ∧ m.fileName = name) ∧
      w.inbound = w.inboundReasons.filterMap Reason.source? ∧
      w.inboundReasons = w.reasons ++
        (w.subModules.flatMap Module.parts.preorder).flatMap fun sub =>
          sub.reasons.filter fun r => r.source?.any fun o => o ∉ w.insideNames := by
  have hvisit {α : Type} [SizeOf α] (u : Unfolding α) (a : α) : u.visit a = u.preorder a := by
    rw [Unfolding.visit, u.walk_eq_flatMap_preorder, List.flatMap_singleton]
  refine ⟨fun tree => ⟨hvisit _ tree, Unfolding.traverses_walk _ _, ?names⟩,
    fun r => ⟨hvisit _ r, Unfolding.traverses_walk _ _⟩, fun s => ?records, fun w =>
    ⟨Unfolding.walk_eq_flatMap_preorder _ _, Unfolding.traverses_walk _ _,
      fun name => Module.mem_insideNames_iff, w.inbound_eq, ?reasons⟩⟩
  case names => rw [Exports.moduleNames, Syntax.Node.visit, hvisit]
  case records =>
    have hchunk : ChunkRecord.allModules = fun c => c.modules.flatMap ModuleRecord.parts.preorder :=
      funext fun c => Unfolding.walk_eq_flatMap_preorder _ c.modules
    rw [BuildStats.namedModules, hchunk]
  case reasons =>
    rw [Module.inboundReasons, Module.nested, Unfolding.below, Unfolding.walk_eq_flatMap_preorder]
    rfl

end BundleGraph
