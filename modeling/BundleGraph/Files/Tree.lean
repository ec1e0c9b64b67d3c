import BundleGraph.Files.Disk

/-! # Trees of files

    The files below one directory, as values. A path is followed
    name by name; each name but the last must lead to a directory. What lies
    above the place where the program runs is not known, and nothing is found
    there.
-/

namespace BundleGraph.Files

/-- The files below a directory, by the names that lead to them. -/
structure FileTree where
  files : List (List String × ByteArray)

/-- A place on the way of a path. -/
inductive Place where
  /-- Below the directory in which the program runs. -/
  | inside (names : List String)
  | outside
  deriving DecidableEq, Repr

namespace FileTree

def empty : FileTree := ⟨[]⟩

def write (t : FileTree) (names : List String) (content : ByteArray) : FileTree :=
  ⟨t.files.filter (fun f => f.1 ≠ names) ++ [(names, content)]⟩

/-- What stands at a place below the directory. -/
def entry? (t : FileTree) (names : List String) : Option Entry :=
  match t.files.find? fun f => f.1 = names with
  | some f => some (.file f.2)
  | none =>
    if names = [] ∨ t.files.any (fun f => names.isPrefixOf f.1) then some .directory else none

def longestName : Nat := 255

def longestPath : Nat := 4095

/-- One name further from a directory. -/
def step (t : FileTree) : Place → String → Except AccessError Place
  | .outside, name =>
    if name = ".." then .ok .outside
    else if longestName < name.utf8ByteSize then .error .nameTooLong
    else .error .notFound
  | .inside names, name =>
    match t.entry? names with
    | some .directory =>
      if name = ".." then .ok (if names = [] then .outside else .inside names.dropLast)
      else if longestName < name.utf8ByteSize then .error .nameTooLong
      else
        match t.entry? (names ++ [name]) with
        | some _ => .ok (.inside (names ++ [name]))
        | none => .error .notFound
    | some (.file _) => .error .notADirectory
    | none => .error .notFound

/-- Where a path leads. -/
def follow (t : FileTree) (p : Path) : Except AccessError Place :=
  if longestPath < p.toString.utf8ByteSize then .error .nameTooLong
  else p.names.foldlM t.step (if p.root = "" then .inside [] else .outside)

def lookup (t : FileTree) (p : Path) : Except AccessError Entry := do
  match ← t.follow p with
  | .outside => return .directory
  | .inside names =>
    match t.entry? names with
    | some e => return e
    | none => throw .notFound

/-! ### Writing -/

/-- Where a way from a place leads, with the directories made that it lacks. -/
def makeWay (t : FileTree) : Place → List String → Except AccessError Place
  | place, [] => .ok place
  | .outside, _ => .ok .outside
  | .inside names, name :: rest =>
    if name = ".." then
      t.makeWay (if names = [] then .outside else .inside names.dropLast) rest
    else if longestName < name.utf8ByteSize then .error .nameTooLong
    else
      match t.entry? (names ++ [name]) with
      | some (.file _) => .error (if rest = [] then .fileExists else .notADirectory)
      | _ => t.makeWay (.inside (names ++ [name])) rest

/-- Writes a file and makes the directories around it. What is written above the place where the
    program runs is not known later. -/
def store (t : FileTree) (p : Path) (content : ByteArray) : Except AccessError FileTree := do
  if longestPath < p.toString.utf8ByteSize then throw .nameTooLong
  if p.name = "" ∨ p.name = ".." then throw .isADirectory
  match ← t.makeWay (if p.root = "" then .inside [] else .outside) p.parent.names with
  | .outside => return t
  | .inside names =>
    if longestName < p.name.utf8ByteSize then throw .nameTooLong
    match t.entry? (names ++ [p.name]) with
    | some .directory => throw .isADirectory
    | _ => return t.write (names ++ [p.name]) content

def disk (t : FileTree) : Disk where
  lookup := t.lookup
  obstacle? p :=
    match t.store p .empty with
    | .ok _ => none
    | .error e => some e

end FileTree

end BundleGraph.Files
