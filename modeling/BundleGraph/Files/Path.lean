import BundleGraph.Text.Search

/-! # Paths

    A path is a root and the names that lead from it to a file. Reading a path
    drops empty names and single dots; double dots are names like any other,
    because what they lead to depends on the files.
-/

namespace BundleGraph.Files

structure Path where
  /-- Empty for a path that starts where the program runs; else one slash, or two. -/
  root : String
  names : List String
  deriving DecidableEq, Repr

namespace Path

/-- The root of a written path: exactly two slashes at the front stay two. -/
def rootOf : List Char → String
  | '/' :: '/' :: '/' :: _ => "/"
  | '/' :: '/' :: _ => "//"
  | '/' :: _ => "/"
  | _ => ""

def ofString (s : String) : Path where
  root := rootOf s.toList
  names := ((Text.splitOn '/' s.toList).map String.ofList).filter fun n => n ≠ "" ∧ n ≠ "."

/-- The written form of a path; the place where the program runs is a dot. -/
def toString (p : Path) : String :=
  if p.root = "" ∧ p.names = [] then "." else p.root ++ "/".intercalate p.names

/-- The last name of a path; empty where there is none. -/
def name (p : Path) : String := p.names.getLastD ""

/-- The extension of a path: the last dot of its name and what follows, unless the dot stands
    first or last. -/
def extension (p : Path) : String :=
  let name := p.name.toList
  let tail := (name.reverse.takeWhile (· ≠ '.')).reverse
  if tail = [] ∨ name.length ≤ tail.length + 1 then "" else String.ofList ('.' :: tail)

def isAbsolute (p : Path) : Bool := p.root ≠ ""

/-- A path from a directory on; a path that starts at a root stays what it is. -/
def startingAt (directory p : Path) : Path :=
  if p.isAbsolute then p else { directory with names := directory.names ++ p.names }

/-- The place where the program runs. -/
def here : Path := ⟨"", []⟩

/-- Whether a path holds a character that ends names. -/
def isBad (p : Path) : Bool := p.names.any fun n => n.toList.contains (Char.ofNat 0)

def parent (p : Path) : Path := { p with names := p.names.dropLast }

end Path

end BundleGraph.Files
