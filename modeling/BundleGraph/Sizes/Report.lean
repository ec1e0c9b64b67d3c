import BundleGraph.Artifact.Wire
import BundleGraph.OrderedMap
import BundleGraph.Sizes.Label

/-! # Size report

    A bundle analyzer reports one entry for each output file, with nested groups
    for directories, concatenations and modules. The report answers how large a
    chunk is and how large the first group is whose path contains a text.

    If several entries belong to one chunk, the last one counts, with its groups.
    Groups are kept flat, in pre-order.
-/

namespace BundleGraph.Sizes

open Document

/-! ### Entries -/

/-- An output file or a group within one. -/
structure Entry where
  label : String
  /-- Path of what the group stands for. -/
  path : Option String
  /-- Size of the sources. -/
  stat : Int
  /-- Size of the output. -/
  parsed : Int
  /-- Size of the compressed output. -/
  gzip : Int
  concatenated : Bool
  groups : List Entry
  deriving Repr

namespace Entry

theorem sizeOf_groups (e : Entry) : sizeOf e.groups < sizeOf e := by
  cases e
  simp

def parts : Unfolding Entry := ⟨groups, sizeOf_groups⟩

/-- Whether the group is flagged as a concatenation or labelled as one. -/
def isConcatenated (e : Entry) : Bool :=
  e.concatenated || Text.occursIn "concatenated" e.label

/-- A size: a value that counts as absent is zero. -/
def checkSize (j : Json) : Checked Int := if j.isBlank then .ok 0 0 else integer j

def check (j : Json) : Checked Entry :=
  object j <|
    Entry.mk
      <$> field j (.plain "label") "" (fun v => string v)
      <*> field j (.plain "path") none (fun v => optional string v)
      <*> field j ⟨"statSize", "stat_size"⟩ 0 (fun v => checkSize v)
      <*> field j ⟨"parsedSize", "parsed_size"⟩ 0 (fun v => checkSize v)
      <*> field j ⟨"gzipSize", "gzip_size"⟩ 0 (fun v => checkSize v)
      <*> field j (.plain "concatenated") false (fun v => boolean v)
      <*> field j (.plain "groups") [] (fun v => listOf v.1 fun item =>
          have := v.2
          have := item.2
          check item.1)
termination_by sizeOf j
decreasing_by omega

mutual

def toJson : Entry → Json
  | ⟨label, path, stat, parsed, gzip, concatenated, groups⟩ =>
    .obj [
      ("label", .str label),
      ("path", stringOrNull path),
      ("statSize", .int stat),
      ("parsedSize", .int parsed),
      ("gzipSize", .int gzip),
      ("concatenated", .bool concatenated),
      ("groups", .arr (toJsonList groups))]

def toJsonList : List Entry → List Json
  | [] => []
  | e :: rest => toJson e :: toJsonList rest

end

/-- The sizes of an entry; none of them may be negative. -/
def sizes (e : Entry) : Except Invalid SizeMetrics :=
  let issue (name : String) (n : Int) : List Issue :=
    if n < 0 then [⟨[.name name], .negative⟩] else []
  match issue "stat_size" e.stat ++ issue "parsed_size" e.parsed ++ issue "gzip_size" e.gzip with
  | [] => .ok ⟨e.stat.toNat, e.parsed.toNat, e.gzip.toNat⟩
  | issues => .error ⟨"SizeMetrics", issues⟩

/-- The entry without its groups, marked as a concatenation if it is one. -/
def alone (e : Entry) : Entry := { e with groups := [], concatenated := e.isConcatenated }

end Entry

/-- All groups at any depth, in pre-order, each without its own groups. -/
def flatten (groups : List Entry) : List Entry := (Entry.parts.walk groups).map Entry.alone

/-! ### Reports -/

/-- What a report says about the file of a chunk. -/
structure Asset where
  sizes : SizeMetrics
  groups : List Entry

/-- Assets by the chunk that they belong to. -/
structure Report where
  assets : OrderedMap String Asset

/-- Why a value is no size report. -/
inductive Problem where
  /-- It is no list but a value of the given kind. -/
  | notList (kind : String)
  /-- An entry is wrong, or its sizes are. -/
  | invalid (e : Invalid)
  deriving DecidableEq, Repr

namespace Report

def empty : Report := ⟨.empty⟩

/-- Adds an entry; an earlier entry of the same chunk is forgotten. -/
def addEntry (r : Report) (e : Entry) : Except Invalid Report := do
  let sizes ← e.sizes
  return ⟨r.assets.insert (chunkIdOfLabel e.label) ⟨sizes, flatten e.groups⟩⟩

def ofEntries (entries : List Entry) : Except Invalid Report := entries.foldlM addEntry empty

def ofJson : Json → Except Problem Report
  | .arr items => do
    let entries ← (items.mapM fun item => (Entry.check item).toExcept "SizeEntry").mapError
      Problem.invalid
    (ofEntries entries).mapError Problem.invalid
  | j => .error (.notList j.kindName)

/-- Chunks that the report knows, in order of first mention. -/
def chunkIds (r : Report) : List String := r.assets.keys

/-- Sizes of a chunk; zero if the report does not know it. -/
def chunkSize (r : Report) (id : String) : SizeMetrics :=
  match r.assets.lookup? id with
  | some a => a.sizes
  | none => .zero

/-- Whether a group has a path that contains the given text. -/
def isAt (needle : String) (e : Entry) : Bool :=
  match e.path with
  | some p => p ≠ "" && Text.occursIn needle p
  | none => false

/-- Sizes of the first group in a chunk whose path contains a text; zero if there is none, or if
    the text is empty. -/
def moduleSize (r : Report) (id needle : String) : Except Invalid SizeMetrics :=
  if needle = "" then .ok .zero
  else
    match r.assets.lookup? id with
    | none => .ok .zero
    | some a =>
      match a.groups.find? (isAt needle) with
      | some e => e.sizes
      | none => .ok .zero

end Report

end BundleGraph.Sizes
