import BundleGraph.Config
import BundleGraph.Files.Disk
import BundleGraph.Graph.Store
import BundleGraph.Libraries
import BundleGraph.Sizes.Report
import BundleGraph.Stats

/-! # Failures

    What can end an analysis. Most failures are reported: they belong to one of
    three families and have a message. The others are faults of the input that
    no one looks for; they stop the program.
-/

namespace BundleGraph

/-- What a document is called in messages. -/
def DocumentKind.title : DocumentKind → String
  | buildStats => "build stats"
  | sizeReport => "size report"
  | config => "config"

inductive Unreadable where
  | access (e : Files.AccessError)
  /-- Its text is no document value. -/
  | text (p : Json.Problem) (place : Text.Place)
  /-- Its text is no YAML. -/
  | yaml
  deriving DecidableEq, Repr

/-- Faults that nothing looks for. -/
inductive Surprise where
  | undecodable
  /-- A path holds a character that ends names. -/
  | badPath
  /-- A path cannot be followed where nothing else was expected. -/
  | access (e : Files.AccessError)
  | tooManyDigits
  | tooDeep
  /-- A text has half of a pair of code units. What becomes of it is not followed further. -/
  | unpaired
  /-- Settings have no value, though nothing in them is malformed. -/
  | yaml (f : Yaml.Fault)
  /-- A text that is marked as a pattern is none. -/
  | badPattern (f : Pattern.Fault)
  | negativeSize (e : Document.Invalid)
  /-- A text that is to be shown has a wrong style mark. -/
  | styleMark
  | amount
  deriving DecidableEq, Repr

inductive ReportedError where
  | unreadable (kind : DocumentKind) (path : String) (cause : Unreadable)
  | statsInvalid (e : Document.Invalid)
  | sizes (p : Sizes.Problem)
  | configMissing (path : String)
  | configNotMapping (path : String) (kind : String)
  | configInvalid (path : String) (e : Document.Invalid)
  | graph (v : Violation)
  deriving DecidableEq, Repr

/-- What can end an analysis. -/
inductive Failure where
  | reported (e : ReportedError)
  | surprise (s : Surprise)
  deriving DecidableEq, Repr

inductive Family where
  | stats
  | config
  | graph
  deriving DecidableEq, Repr

def Family.name : Family → String
  | stats => "BuildStatsError"
  | config => "ConfigError"
  | graph => "GraphInvariantError"

/-- What follows the path in the message about a document. -/
def Unreadable.detail (path : String) : Unreadable → String
  | access e => ": " ++ e.message path
  | text p place => ": " ++ p.message ++ ": " ++ place.describe
  | yaml => ""

namespace ReportedError

def family : ReportedError → Family
  | unreadable .config .. => .config
  | unreadable .. => .stats
  | statsInvalid _ => .stats
  | sizes _ => .stats
  | configMissing _ => .config
  | configNotMapping .. => .config
  | configInvalid .. => .config
  | graph _ => .graph

def message : ReportedError → String
  | unreadable kind path cause =>
    "Could not read " ++ kind.title ++ " " ++ path ++ cause.detail path
  | statsInvalid e => "Invalid build stats: " ++ e.headline
  | sizes (.notList kind) => "Size report must be a list, got " ++ kind
  | sizes (.invalid e) => "Invalid size report: " ++ e.headline
  | configMissing path => "Config file not found: " ++ path
  | configNotMapping path kind => "Config " ++ path ++ " must be a mapping, got " ++ kind
  | configInvalid path e => "Invalid config " ++ path ++ ": " ++ e.headline
  | graph v => v.message

/-- The issues behind a failed check. -/
def invalid? : ReportedError → Option Document.Invalid
  | statsInvalid e => some e
  | sizes (.invalid e) => some e
  | configInvalid _ e => some e
  | _ => none

end ReportedError

end BundleGraph
