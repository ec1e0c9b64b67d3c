import BundleGraph.Json.Writer
import BundleGraph.Libraries
import BundleGraph.OrderedMap

/-! # Usage of exports

    The build says which exports of a module are used. There are three readings:
    nothing is known, everything is used, or exactly the listed names are used.
    That nothing is known and that nothing is used leave the same exports dead,
    but they are different facts and stay apart.

    A record of usage may be keyed by runtime; a runtime that it does not name
    is unknown. A module may also be forced to count as used, whatever its
    record says.

    Forced are the modules of chunks that are kept whole. A matcher tells by name
    which chunks these are: those whose name is listed, and those in whose name a
    pattern is found. A chunk without a name is never matched.
-/

namespace BundleGraph

/-- What the build says about the exports of a module. -/
inductive Usage where
  | unknown
  | allUsed
  /-- Exactly these names are used. -/
  | only (names : List String)
  deriving DecidableEq, Repr

namespace Usage

/-- The reading of a recorded value: absent or null, true, false, or a list of names. Anything
    else says nothing. -/
def ofJson : Json → Usage
  | .bool true => allUsed
  | .bool false => only []
  | .arr items => only (firstOccurrences (items.map Json.display))
  | _ => unknown

def stateName : Usage → String
  | unknown => "unknown"
  | allUsed => "all_used"
  | only _ => "partial"

def names : Usage → List String
  | only names => names
  | _ => []

def deadExports (u : Usage) (exports : List String) : List String :=
  match u with
  | unknown => exports
  | allUsed => []
  | only names => exports.filter fun e => e ∉ names

end Usage

/-! ### Oracles -/

/-- Answers for a file name and a runtime. -/
abbrev UsageOracle := String → Option String → Usage

namespace UsageOracle

/-- The reading of one record for a runtime. An object is keyed by runtime; any other value holds
    for every runtime. -/
def readRecord (record : Json) (runtime : Option String) : Usage :=
  match record with
  | .obj members =>
    match runtime.bind fun r => Json.findMember r members with
    | some v => Usage.ofJson v.1
    | none => .unknown
  | v => Usage.ofJson v

/-- The oracle of recorded values by file name. -/
def ofRecords (records : OrderedMap String Json) : UsageOracle := fun fileName runtime =>
  match records.lookup? fileName with
  | some record => readRecord record runtime
  | none => .unknown

/-- The oracle in which the given files count as fully used. -/
def force (oracle : UsageOracle) (forced : List String) : UsageOracle := fun fileName runtime =>
  if fileName ∈ forced then .allUsed else oracle fileName runtime

end UsageOracle

/-! ### Matching chunks -/

/-- A choice of chunks by name. -/
structure ChunkMatcher where
  names : List String
  /-- Searches for patterns in names. -/
  patterns : List (String → Bool)

namespace ChunkMatcher

/-- The choice of no chunk. -/
def nothing : ChunkMatcher := ⟨[], []⟩

/-- The choice of chunks with one of the given names. -/
def ofNames (names : List String) : ChunkMatcher := ⟨names, []⟩

/-- The choice of chunks in whose name a pattern is found. -/
def ofPattern (finds : String → Bool) : ChunkMatcher := ⟨[], [finds]⟩

/-- What stands before a pattern among names. -/
def patternMark : String := "re:"

/-- The text of the pattern that a marked entry stands for. -/
def patternText (entry : String) : String := String.ofList (entry.toList.drop patternMark.length)

/-- Adds a name, or a pattern if it is marked as one. -/
def addEntry (lib : Libraries) (m : ChunkMatcher) (entry : String) :
    Except Pattern.Fault ChunkMatcher :=
  if Text.beginsWith patternMark entry then
    (lib.pattern (patternText entry)).map fun finds => { m with patterns := m.patterns ++ [finds] }
  else .ok { m with names := m.names ++ [entry] }

def ofEntries (lib : Libraries) (entries : List String) : Except Pattern.Fault ChunkMatcher :=
  entries.foldlM (addEntry lib) nothing

/-- Whether a chunk of the given name is matched. -/
def accepts (m : ChunkMatcher) (name : Option String) : Bool :=
  match name with
  | some n => n ≠ "" && (m.names.contains n || m.patterns.any fun finds => finds n)
  | none => false

end ChunkMatcher

end BundleGraph
