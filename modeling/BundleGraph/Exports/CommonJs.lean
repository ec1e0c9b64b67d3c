import BundleGraph.OrderedMap
import BundleGraph.Syntax.Tree
import BundleGraph.Text.Search

/-! # CommonJS modules

    A CommonJS module exports by assigning to `exports` or `module.exports`. Two
    questions are asked of its tree. `isCommonJs` asks for any sign of such a
    module: a call of `require`, an assignment to its exports, a call that
    defines properties of them. `collected` asks which names the module exports
    and which modules it hands on.

    What stands in an argument list is found by its place; a comment takes a
    place, too.
-/

namespace BundleGraph.Exports

open Syntax

/-! ### Shapes -/

/-- Whether a node is the given name of a value. -/
def isIdentifier (name : String) (n : Node) : Bool := n.kind = .identifier && n.text = name

def childIs (n : Node) (r : Role) (p : Node → Bool) : Bool := (n.child? r).any p

def isProperty (name : String) (n : Node) : Bool := n.kind = .propertyName && n.text = name

def isModuleExports (n : Node) : Bool :=
  n.kind = .member && childIs n .object (isIdentifier "module") &&
    childIs n .property (isProperty "exports")

/-- Whether a node stands for the exports of the module. -/
def isExports (n : Node) : Bool := isIdentifier "exports" n || isModuleExports n

def isCallOf (name : String) (n : Node) : Bool :=
  n.kind = .call && childIs n .function (isIdentifier name)

/-- Whether a node is a call of a method of `Object`. -/
def isObjectCall (methods : List String) (n : Node) : Bool :=
  n.kind = .call && childIs n .function fun f =>
    f.kind = .member && childIs f .object (isIdentifier "Object") &&
      childIs f .property fun p => methods.contains p.text

/-- Whether a node reads a member of the exports of the module. -/
def isExportsMember (n : Node) : Bool :=
  (n.kind = .member || n.kind = .subscript) && childIs n .object isExports

/-- The arguments of a call that are no comments. -/
def argumentNodes (n : Node) : List Node :=
  match n.child? .arguments with
  | some a => a.namedChildren.filter fun c => c.kind ≠ .comment
  | none => []

/-! ### Signs of a CommonJS module -/

/-- Methods of `Object` that write properties. -/
def writingMethods : List String := ["assign", "defineProperty", "defineProperties"]

/-- Whether a node assigns to the exports of the module or to a member of them. -/
def assignsExports (n : Node) : Bool :=
  (n.kind = .assignment || n.kind = .augmentedAssignment) &&
    childIs n .left fun left => isModuleExports left || isExportsMember left

/-- Whether a node writes properties of the exports of the module. -/
def writesExports (n : Node) : Bool :=
  isObjectCall writingMethods n &&
    match argumentNodes n with
    | a :: _ => a.text = "exports" || a.text = "module.exports"
    | [] => false

/-- Whether a node is a sign of a CommonJS module. -/
def isSign (n : Node) : Bool := isCallOf "require" n || assignsExports n || writesExports n

/-- Whether a tree has any sign of a CommonJS module. -/
def isCommonJs (tree : Node) : Bool := tree.visit.any isSign

/-! ### Names and modules handed on -/

/-- The value of a string or a key: its text without quotation marks at its ends. -/
def stringValue (n : Node) : String :=
  String.ofList (Text.stripWhile (fun c => c = '\'' || c = '"') n.text.toList)

/-- What a tree exports in one place. -/
structure Collected where
  exports : List String
  /-- Modules whose names are handed on. -/
  reexports : List String
  deriving DecidableEq, Repr

namespace Collected

def empty : Collected := ⟨[], []⟩

def name (s : String) : Collected := ⟨[s], []⟩

def source (s : String) : Collected := ⟨[], [s]⟩

/-- What several places export, in their order. -/
def all (cs : List Collected) : Collected := ⟨cs.flatMap exports, cs.flatMap reexports⟩

/-- Every name once, where it came first; empty names are none. -/
def distinct (c : Collected) : Collected where
  exports := firstOccurrences (c.exports.filter (· ≠ ""))
  reexports := firstOccurrences (c.reexports.filter (· ≠ ""))

end Collected

/-- Kinds of keys that are known without running the program. -/
def staticKeys : List Kind := [.propertyName, .string, .number]

def keyName (key : Option Node) : Collected :=
  match key with
  | some k => if k.kind ∈ staticKeys then .name (stringValue k) else .empty
  | none => .empty

/-- The module that a call of `require` asks for, where its first argument is a string. -/
def requiredSource (call : Node) : Collected :=
  match argumentNodes call with
  | a :: _ => if a.kind = .string then .source (stringValue a) else .empty
  | [] => .empty

def memberExports (n : Node) : Collected :=
  match n.kind with
  | .shorthandName => .name n.text
  | .pair => keyName (n.child? .key)
  | .method => keyName (n.child? .name)
  | .spread =>
    match n.namedChildren with
    | a :: _ => if isCallOf "require" a then requiredSource a else .empty
    | [] => .empty
  | _ => .empty

def objectExports (n : Node) : Collected := .all (n.namedChildren.map memberExports)

/-- The nodes in the places of a call's argument list. -/
def argumentPlaces (n : Node) : List Node :=
  match n.child? .arguments with
  | some a => if a.kind = .arguments then a.namedChildren else []
  | none => []

/-- The module that a call of `require` asks for, where a string stands in the first place. -/
def firstString (call : Node) : Collected :=
  match argumentPlaces call with
  | a :: _ => if a.kind = .string then .source (stringValue a) else .empty
  | [] => .empty

/-- The name of a member of the exports of the module. -/
def memberName (left : Node) : Collected :=
  if left.kind = .member then
    match left.child? .property with
    | some p => if p.kind = .propertyName then .name (stringValue p) else .empty
    | none => .empty
  else
    match left.child? .index with
    | some i => if i.kind = .string then .name (stringValue i) else .empty
    | none => .empty

def valueExports (value : Node) : Collected :=
  if value.kind = .object then objectExports value
  else if isCallOf "require" value then firstString value
  else .empty

def assignmentExports (n : Node) : Collected :=
  match n.child? .left with
  | some left =>
    if isExportsMember left then memberName left
    else if isModuleExports left then
      match n.child? .right with
      | some value => valueExports value
      | none => .empty
    else .empty
  | none => .empty

/-- Helpers of transpilers that hand on a module. -/
def exportHelpers : List String := ["__exportStar", "__export"]

def callExports (n : Node) : Collected :=
  if isObjectCall ["defineProperty"] n then
    match argumentPlaces n with
    | target :: name :: _ =>
      if isExports target && name.kind = .string then .name (stringValue name) else .empty
    | _ => .empty
  else if exportHelpers.any fun h => isCallOf h n then
    match argumentPlaces n with
    | a :: _ => if isCallOf "require" a then firstString a else .empty
    | [] => .empty
  else .empty

def nodeExports (n : Node) : Collected :=
  match n.kind with
  | .assignment => assignmentExports n
  | .call => callExports n
  | _ => .empty

/-- What a tree exports, in the order of the source. -/
def collected (tree : Node) : Collected :=
  (Collected.all (tree.visit.map nodeExports)).distinct

end BundleGraph.Exports
