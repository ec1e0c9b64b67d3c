import BundleGraph.Artifact.Wire

/-! # Build stats

    The record that the bundler writes for one runtime: every chunk, the modules
    in it with those that are concatenated into them, why each module is there,
    and what the build says about the use of its exports.
-/

namespace BundleGraph.Stats

open Document

/-! ### Records -/

/-- A connection that pulled a module in. -/
structure Connection where
  origin : Option String
  explanation : String
  type : Option String
  /-- Where in the source of its origin it stands. -/
  location : Option String
  deriving DecidableEq, Repr

structure ModuleRecord where
  id : Option BundlerId
  kind : ModuleKind
  fileName : String
  /-- Path of its source, if it differs from its name. -/
  resource : Option String
  reasons : List Connection
  /-- What the build says about the use of its exports. -/
  usedExports : Json
  /-- Modules that it is made of. -/
  modules : List ModuleRecord
  deriving Repr

structure ChunkRecord where
  id : Option BundlerId
  name : Option String
  /-- A number for chunks that have neither. -/
  debugId : Option Int
  /-- Whether it is loaded with the page. -/
  initial : Bool
  modules : List ModuleRecord
  deriving Repr

/-- The record of one build. -/
structure BuildStats where
  runtime : Option String
  /-- Directory that paths of sources are relative to. -/
  context : Option String
  chunks : List ChunkRecord
  deriving Repr

/-! ### Views -/

namespace ModuleRecord

theorem sizeOf_modules (m : ModuleRecord) : sizeOf m.modules < sizeOf m := by
  cases m
  simp only [ModuleRecord.mk.sizeOf_spec]
  omega

/-- A module unfolds into the modules that it is made of. -/
def parts : Unfolding ModuleRecord := ⟨modules, sizeOf_modules⟩

def isWrapper (m : ModuleRecord) : Bool := m.kind == .concatenated

/-- A wrapper unfolds into the modules that it is made of; nothing else unfolds. -/
def carried : Unfolding ModuleRecord where
  children m := if m.isWrapper then m.modules else []
  smaller m := by
    split
    · exact sizeOf_modules m
    · exact Nat.lt_of_le_of_lt (sizeOf_list_pos m.modules) (sizeOf_modules m)

end ModuleRecord

namespace ChunkRecord

/-- The name by which the chunk is known: its name, else its identifier, else one made from the
    debug number. -/
def key (c : ChunkRecord) : String :=
  let fallback := "chunk-" ++ match c.debugId with
    | some n => toString n
    | none => "None"
  match c.name.filter (· ≠ "") with
  | some name => name
  | none => ((c.id.map BundlerId.text).filter (· ≠ "")).getD fallback

/-- All modules in the chunk at any depth, in pre-order. -/
def allModules (c : ChunkRecord) : List ModuleRecord := ModuleRecord.parts.walk c.modules

/-- The modules that the chunk carries, wrappers and what they stand for, in pre-order. -/
def carried (c : ChunkRecord) : List ModuleRecord := ModuleRecord.carried.walk c.modules

/-- Where the connections into the chunk's top-level modules stand; only those count that have an
    origin. -/
def locations (c : ChunkRecord) : List String :=
  c.modules.flatMap fun m => m.reasons.filterMap fun r =>
    if (r.origin.filter (· ≠ "")).isSome then r.location.filter (· ≠ "") else none

end ChunkRecord

/-! ### On the wire -/

namespace Connection

def check (j : Json) : Checked Connection :=
  object j <|
    Connection.mk
      <$> field j ⟨"from", "origin"⟩ none (fun v => optional string v)
      <*> field j (.plain "explanation") "" (fun v => string v)
      <*> field j (.plain "type") none (fun v => optional string v)
      <*> field j (.plain "loc") none (fun v => optional string v)

def toJson (c : Connection) : Json :=
  .obj [
    ("from", stringOrNull c.origin),
    ("explanation", .str c.explanation),
    ("type", stringOrNull c.type),
    ("loc", stringOrNull c.location)]

end Connection

namespace ModuleRecord

/-- Reads a module with those that it is made of. -/
def check (j : Json) : Checked ModuleRecord :=
  object j <|
    ModuleRecord.mk
      <$> field j (.plain "id") none (fun v => BundlerId.check v)
      <*> field j (.plain "type") .normal (fun v => oneOf ModuleKind.names v)
      <*> field j ⟨"fileName", "file_name"⟩ "" (fun v => string v)
      <*> field j (.plain "resource") none (fun v => optional string v)
      <*> field j (.plain "reasons") [] (fun v => listOf v.1 fun item => Connection.check item)
      <*> field j ⟨"usedExports", "used_exports"⟩ .null (fun v => .ok v.1 0)
      <*> field j (.plain "modules") [] (fun v => listOf v.1 fun item =>
          have := v.2
          have := item.2
          check item.1)
termination_by sizeOf j
decreasing_by omega

mutual

def toJson : ModuleRecord → Json
  | ⟨id, kind, fileName, resource, reasons, usedExports, modules⟩ =>
    .obj [
      ("id", BundlerId.toJson id),
      ("type", .str kind.name),
      ("fileName", .str fileName),
      ("resource", stringOrNull resource),
      ("reasons", .arr (reasons.map Connection.toJson)),
      ("usedExports", usedExports),
      ("modules", .arr (toJsonList modules))]

def toJsonList : List ModuleRecord → List Json
  | [] => []
  | m :: rest => toJson m :: toJsonList rest

end

end ModuleRecord

namespace ChunkRecord

def check (j : Json) : Checked ChunkRecord :=
  object j <|
    ChunkRecord.mk
      <$> field j (.plain "id") none (fun v => BundlerId.check v)
      <*> field j (.plain "name") none (fun v => optional string v)
      <*> field j ⟨"debugId", "debug_id"⟩ none (fun v => optional integer v)
      <*> field j (.plain "initial") false (fun v => boolean v)
      <*> field j (.plain "modules") [] (fun v => listOf v.1 fun item => ModuleRecord.check item)

def toJson (c : ChunkRecord) : Json :=
  .obj [
    ("id", BundlerId.toJson c.id),
    ("name", stringOrNull c.name),
    ("debugId", match c.debugId with
      | some n => .int n
      | none => .null),
    ("initial", .bool c.initial),
    ("modules", .arr (c.modules.map ModuleRecord.toJson))]

end ChunkRecord

namespace BuildStats

def check (j : Json) : Checked BuildStats :=
  object j <|
    BuildStats.mk
      <$> field j (.plain "runtime") none (fun v => optional string v)
      <*> field j (.plain "context") none (fun v => optional string v)
      <*> field j (.plain "chunks") [] (fun v => listOf v.1 fun item => ChunkRecord.check item)

def ofJson (j : Json) : Except Invalid BuildStats := (check j).toExcept "BuildStats"

def toJson (s : BuildStats) : Json :=
  .obj [
    ("runtime", stringOrNull s.runtime),
    ("context", stringOrNull s.context),
    ("chunks", .arr (s.chunks.map ChunkRecord.toJson))]

end BuildStats

end BundleGraph.Stats
