import BundleGraph.Text.Search

/-! # Asset labels

    A size report names assets by their file names. The chunk that an asset
    belongs to is found by taking away where the file lies and everything from
    the content hash on: a point or a dash and at least eight hexadecimal digits
    up to the next point or the end. Without a hash the extension goes.
-/

namespace BundleGraph.Sizes

open Text

/-- Whether a character is a hexadecimal digit, of either case. -/
def isHexDigit (c : Char) : Bool :=
  ('0' ≤ c && c ≤ '9') || ('a' ≤ c && c ≤ 'f') || ('A' ≤ c && c ≤ 'F')

/-- Whether a text begins with a content hash: at least eight hexadecimal digits that reach a
    point or the end; a line feed that ends the text does not count. -/
def startsWithHash (cs : List Char) : Bool :=
  8 ≤ (cs.takeWhile isHexDigit).length &&
    match cs.dropWhile isHexDigit with
    | [] => true
    | '.' :: _ => true
    | ['\n'] => true
    | _ => false

/-- The text before the first point or dash that introduces a content hash. -/
def beforeHash? : List Char → Option (List Char)
  | [] => none
  | c :: rest =>
    if (c = '.' || c = '-') && startsWithHash rest then some []
    else (beforeHash? rest).map (c :: ·)

/-- The text before the last point, if there is a point. -/
def beforeLastPoint? : List Char → Option (List Char)
  | [] => none
  | c :: rest =>
    match beforeLastPoint? rest with
    | some before => some (c :: before)
    | none => if c = '.' then some [] else none

/-- The text without its extension; a text that begins with its only point has none. -/
def dropExtension (cs : List Char) : List Char :=
  match beforeLastPoint? cs with
  | some (c :: before) => c :: before
  | _ => cs

/-- The name of an asset without the directories of the output tree. -/
def assetName (label : List Char) : List Char :=
  dropRuns "../".toList (dropFirstRun "static/chunks/".toList label)

/-- The chunk that an asset belongs to. -/
def chunkIdOfChars (label : List Char) : List Char :=
  let name := assetName label
  match beforeHash? name with
  | some before => before
  | none => dropExtension name

def chunkIdOfLabel (label : String) : String := String.ofList (chunkIdOfChars label.toList)

end BundleGraph.Sizes
