import BundleGraph.Exports.CommonJs
import BundleGraph.Exports.Names
import BundleGraph.Files.Disk
import BundleGraph.Libraries
import BundleGraph.Usage

/-! # Analysis of a source

    What one source exports is found by extractors. Each of them looks at the text
    first, which may spare it the walk over the tree, and each has a priority; a
    registry keeps them in descending order of it and runs them one after the
    other. The standard registry has one for the names of export statements, and
    one for the names and the modules that are handed on as a CommonJS module. Of
    all that they find each name counts once.

    A source file that cannot be read, is no text or is too large exports nothing
    that is known.
-/

namespace BundleGraph.Exports

open Files Syntax

/-! ### Extractors -/

/-- A way to find names that a source exports. -/
structure Extractor where
  /-- Those with a higher one run first. -/
  priority : Int
  /-- A look at the source that tells whether there can be anything to find. -/
  applies : Parsed → Bool
  extract : Parsed → List String

/-- Extractors in the order in which they run. -/
abbrev ExtractorRegistry := List Extractor

namespace ExtractorRegistry

/-- Puts an extractor behind those of its priority or a higher one. -/
def place (e : Extractor) : ExtractorRegistry → ExtractorRegistry
  | [] => [e]
  | x :: rest => if e.priority ≤ x.priority then x :: place e rest else e :: x :: rest

/-- Sorts by priority; extractors of one priority keep their order. -/
def sort (r : ExtractorRegistry) : ExtractorRegistry := r.foldl (fun sorted e => place e sorted) []

def register (r : ExtractorRegistry) (e : Extractor) : ExtractorRegistry := sort (r ++ [e])

/-- What the extractors find that apply. -/
def extractAll (r : ExtractorRegistry) (p : Parsed) : List String :=
  r.flatMap fun e => if e.applies p then e.extract p else []

end ExtractorRegistry

def statementExtractor : Extractor where
  priority := 100
  applies p := Text.occursIn "export" p.text
  extract p := moduleNames p.tree

/-- What a CommonJS module exports and hands on. -/
def assignmentExtractor : Extractor where
  priority := 50
  applies p := p.text ≠ ""
  extract p := (collected p.tree).exports ++ (collected p.tree).reexports

def standardRegistry : ExtractorRegistry :=
  (ExtractorRegistry.register [] statementExtractor).register assignmentExtractor

/-! ### Sources -/

/-- What is known of the exports of one module. -/
structure ModuleExports where
  isCommonJs : Bool
  exports : List String
  deadExports : List String
  deriving DecidableEq, Repr

def ModuleExports.empty : ModuleExports := ⟨false, [], []⟩

/-- The mark of a module that was compiled from one with export statements. -/
def interopMark : String := "__esModule"

def isCommonJsSource (p : Parsed) : Bool :=
  !Text.occursIn interopMark p.text && isCommonJs p.tree

def analyze (p : Parsed) (usage : Usage) : ModuleExports :=
  let exports := firstOccurrences (standardRegistry.extractAll p)
  ⟨isCommonJsSource p, exports, usage.deadExports exports⟩

/-! ### Files -/

/-- The text of a source, unless it cannot be read or has more bytes than the limit; zero is no
    limit. A path that can name nothing is an error. -/
def sourceText? (disk : Disk) (path : Path) (limit : Nat) : Except TextError (Option String) :=
  if path.isBad then .error .badPath
  else
    match disk.read path with
    | .error _ => .ok none
    | .ok bytes =>
      if limit ≠ 0 ∧ limit < bytes.size then .ok none
      else
        match disk.readText path with
        | .ok text => .ok (some text)
        | .error _ => .ok none

def analyzeFile (lib : Libraries) (disk : Disk) (path : Path) (usage : Usage) (limit : Nat) :
    Except TextError ModuleExports := do
  match ← sourceText? disk path limit with
  | some text => return analyze (lib.parse (.ofPath (some path)) text) usage
  | none => return .empty

end BundleGraph.Exports
