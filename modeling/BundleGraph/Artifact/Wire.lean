import BundleGraph.Artifact
import BundleGraph.Document.Check

/-! # Artifacts on the wire

    Reading and writing of artifacts as document values. Writing gives every
    field under its wire name; reading accepts absent fields, which then have
    their defaults.
-/

namespace BundleGraph

open Document

/-! ### Names -/

def ModuleKind.names : List (String × ModuleKind) :=
  [("Normal", .normal), ("Concatenated", .concatenated), ("External", .external)]

def ModuleKind.name : ModuleKind → String
  | normal => "Normal"
  | concatenated => "Concatenated"
  | external => "External"

def ChunkKind.names : List (String × ChunkKind) :=
  [("sync", .sync), ("lazy", .lazy), ("preload", .preload), ("prefetch", .prefetch)]

def ChunkKind.name : ChunkKind → String
  | sync => "sync"
  | lazy => "lazy"
  | preload => "preload"
  | prefetch => "prefetch"

/-! ### Small records -/

namespace SizeMetrics

def check (j : Json) : Checked SizeMetrics :=
  object j <|
    SizeMetrics.mk
      <$> field j ⟨"statSize", "stat_size"⟩ 0 (fun v => natural v)
      <*> field j ⟨"parsedSize", "parsed_size"⟩ 0 (fun v => natural v)
      <*> field j ⟨"gzipSize", "gzip_size"⟩ 0 (fun v => natural v)

def toJson (s : SizeMetrics) : Json :=
  .obj [("statSize", .int s.stat), ("parsedSize", .int s.parsed), ("gzipSize", .int s.gzip)]

end SizeMetrics

def Document.stringOrNull : Option String → Json
  | some s => .str s
  | none => .null

namespace Reason

def check (j : Json) : Checked Reason :=
  object j <|
    Reason.mk
      <$> field j ⟨"from", "origin"⟩ none (fun v => optional string v)
      <*> field j (.plain "explanation") "" (fun v => string v)
      <*> field j (.plain "type") none (fun v => optional string v)

def toJson (r : Reason) : Json :=
  .obj [("from", stringOrNull r.origin), ("explanation", .str r.explanation),
    ("type", stringOrNull r.type)]

end Reason

namespace BundlerId

/-- Reads an identifier: a string stays one, and anything else that could be a whole number is
    one. -/
def check : Json → Checked (Option BundlerId)
  | .null => .ok none 0
  | .str s => .ok (some (.name s)) 0
  | j =>
    match integer j with
    | .ok n given => .ok (some (.number n)) given
    | .bad is => .bad (⟨[.name "str"], .notString⟩ :: is.map (Issue.under (.name "int")))

def toJson : Option BundlerId → Json
  | none => .null
  | some (number n) => .int n
  | some (name s) => .str s

def text : BundlerId → String
  | number n => toString n
  | name s => s

end BundlerId

def Document.stringList (xs : List String) : Json := .arr (xs.map .str)

/-! ### Modules and chunks -/

namespace Module

/-- Reads a module and all that is nested in it. -/
def check (j : Json) : Checked Module :=
  object j <|
    Module.mk
      <$> field j (.plain "id") none (fun v => BundlerId.check v)
      <*> field j ⟨"fileName", "file_name"⟩ "" (fun v => string v)
      <*> field j (.plain "kind") .normal (fun v => oneOf ModuleKind.names v)
      <*> field j ⟨"sizeMetrics", "size_metrics"⟩ .zero (fun v => SizeMetrics.check v)
      <*> field j (.plain "exports") [] (fun v => strings v)
      <*> field j ⟨"deadExports", "dead_exports"⟩ [] (fun v => strings v)
      <*> field j ⟨"isCommonJS", "is_commonjs"⟩ false (fun v => boolean v)
      <*> field j ⟨"subModules", "sub_modules"⟩ []
        (fun v => listOf v.1 fun item =>
          have := v.2
          have := item.2
          check item.1)
      <*> field j (.plain "reasons") [] (fun v => listOf v.1 fun item => Reason.check item)
termination_by sizeOf j
decreasing_by omega

mutual

def toJson : Module → Json
  | ⟨id, fileName, kind, sizes, exports, deadExports, isCommonJS, subModules, reasons⟩ =>
    .obj [
      ("id", BundlerId.toJson id),
      ("fileName", .str fileName),
      ("kind", .str kind.name),
      ("sizeMetrics", sizes.toJson),
      ("exports", stringList exports),
      ("deadExports", stringList deadExports),
      ("isCommonJS", .bool isCommonJS),
      ("subModules", .arr (toJsonList subModules)),
      ("reasons", .arr (reasons.map Reason.toJson))]

def toJsonList : List Module → List Json
  | [] => []
  | m :: rest => toJson m :: toJsonList rest

end

theorem toJsonList_eq (ms : List Module) : toJsonList ms = ms.map toJson := by
  induction ms with
  | nil => rfl
  | cons m ms ih => simp [toJsonList, ih]

end Module

namespace Chunk

def check (j : Json) : Checked Chunk :=
  object j <|
    Chunk.mk
      <$> required j (.plain "id") (fun v => string v)
      <*> field j (.plain "kind") .sync (fun v => oneOf ChunkKind.names v)
      <*> field j ⟨"sizeMetrics", "size_metrics"⟩ .zero (fun v => SizeMetrics.check v)
      <*> field j (.plain "modules") [] (fun v => listOf v.1 fun item => Module.check item)

def toJson (c : Chunk) : Json :=
  .obj [
    ("id", .str c.id),
    ("kind", .str c.kind.name),
    ("sizeMetrics", c.sizes.toJson),
    ("modules", .arr (c.modules.map Module.toJson))]

end Chunk

end BundleGraph
