import BundleGraph.Files.Tree
import BundleGraph.Main
import BundleGraph.Proofs.Assembly.KeptWhole
import BundleGraph.Proofs.BuildReport
import BundleGraph.Proofs.ChunksByName
import BundleGraph.Proofs.CommandLine.Build
import BundleGraph.Proofs.Exports.Scopes
import BundleGraph.Proofs.Graph.Answers
import BundleGraph.Proofs.Graph.Contraction
import BundleGraph.Proofs.Graph.LastReason
import BundleGraph.Proofs.Graph.AnyRegistry
import BundleGraph.Proofs.Graph.Reordering
import BundleGraph.Proofs.Graph.Unwrapping
import BundleGraph.Proofs.Sizes.Report
import BundleGraph.Proofs.Assembly.Runtimes
import BundleGraph.Proofs.Graph.Growth
import BundleGraph.Proofs.Exports.Signs
import BundleGraph.Proofs.Exports.Comments
import BundleGraph.Proofs.Importers.Distance
import BundleGraph.Proofs.Artifact.Wire
import BundleGraph.Proofs.Graph.Memory
import BundleGraph.Proofs.Assembly.Images
import BundleGraph.Proofs.Syntax.Reading
import BundleGraph.Proofs.Syntax.Grammar.Types
import BundleGraph.Proofs.Syntax.Grammar.Members
import BundleGraph.Proofs.Syntax.Grammar.Expressions
import BundleGraph.Proofs.Syntax.Grammar.Declarations
import BundleGraph.Proofs.Syntax.Grammar.Statements
import BundleGraph.Proofs.Syntax.Parse
import BundleGraph.Proofs.Exports.Statements
import BundleGraph.Proofs.Exports.Shapes
import BundleGraph.Proofs.Exports.Collection
import BundleGraph.Proofs.Exports.Literals
import BundleGraph.Proofs.Exports.Analysis
import BundleGraph.Proofs.Preorder
import BundleGraph.Proofs.Registry.Joined
import BundleGraph.Proofs.Sizes.Label
import BundleGraph.Proofs.Assembly.Backfill
import BundleGraph.Proofs.Graph.Reachability
import BundleGraph.Proofs.Assembly.Timing
import BundleGraph.Proofs.Traversal.Callers
