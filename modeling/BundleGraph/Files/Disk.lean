import BundleGraph.Files.Path
import BundleGraph.Text.Quoted
import BundleGraph.Text.Search

/-! # Disks

    What a program knows of the files around it: what each path leads to, and
    why a file cannot be written at a path. Nothing else about files matters, so
    a statement about every disk is one about every state of the files.
-/

namespace BundleGraph.Files

/-! ### Failures -/

/-- Why a path cannot be followed or what it leads to cannot be read. -/
inductive AccessError where
  | notFound
  | fileExists
  | notADirectory
  | isADirectory
  | nameTooLong
  | denied
  deriving DecidableEq, Repr

def AccessError.number : AccessError → Nat
  | notFound => 2
  | fileExists => 17
  | notADirectory => 20
  | isADirectory => 21
  | nameTooLong => 36
  | denied => 13

def AccessError.wording : AccessError → String
  | notFound => "No such file or directory"
  | fileExists => "File exists"
  | notADirectory => "Not a directory"
  | isADirectory => "Is a directory"
  | nameTooLong => "File name too long"
  | denied => "Permission denied"

def AccessError.message (e : AccessError) (path : String) : String :=
  "[Errno " ++ toString e.number ++ "] " ++ e.wording ++ ": " ++ Text.quoted path

inductive TextError where
  /-- The path holds a character that ends names. -/
  | badPath
  | access (e : AccessError)
  | undecodable
  deriving DecidableEq, Repr

/-! ### Disks -/

inductive Entry where
  | file (content : ByteArray)
  | directory

structure Disk where
  lookup : Path → Except AccessError Entry
  /-- Why no file can be written at a path, with the directories around it. -/
  obstacle? : Path → Option AccessError

namespace Disk

def empty : Disk := ⟨fun _ => .error .notFound, fun _ => none⟩

/-- What a written path leads to; a slash at its end asks for a directory. -/
def lookupText (d : Disk) (written : String) : Except AccessError Entry := do
  if written = "" then throw .notFound
  match ← d.lookup (.ofString written) with
  | .file content =>
    if written.toList.getLast? = some '/' then throw .notADirectory else return .file content
  | .directory => return .directory

def read (d : Disk) (p : Path) : Except AccessError ByteArray := do
  match ← d.lookup p with
  | .file content => return content
  | .directory => throw .isADirectory

/-- Whether a path leads to anything. An error other than that a name is missing on the way is an
    error here too. -/
def doesExist (d : Disk) (p : Path) : Except AccessError Bool :=
  if p.isBad then .ok false
  else
    match d.lookup p with
    | .ok _ => .ok true
    | .error .notFound => .ok false
    | .error .notADirectory => .ok false
    | .error e => .error e

/-- The text of a file, with every end of line as one line feed. -/
def readText (d : Disk) (p : Path) : Except TextError String :=
  if p.isBad then .error .badPath
  else
    match d.read p with
    | .error e => .error (.access e)
    | .ok bytes =>
      match String.fromUTF8? bytes with
      | some s => .ok (String.ofList (Text.unifyLineEnds s.toList))
      | none => .error .undecodable

end Disk

end BundleGraph.Files
