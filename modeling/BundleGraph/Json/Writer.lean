import BundleGraph.Json.Value
import BundleGraph.Number.Shortest
import BundleGraph.Text.Quoted

/-! # Writing document text

    Values are written in two layouts: on one line without blanks, and over
    several lines with two blanks of indentation for each level. In both, all
    characters outside of printable ASCII are written as escapes, those above
    U+FFFF as two code units.

    A list of names may hold values that are no strings. Such a value is named
    by its display text: constants by their words, lists and objects between
    brackets, and strings inside of them in quotes. A string itself is its own
    name.
-/

namespace BundleGraph.Json

open BundleGraph.Text

def unitEscape (n : Nat) : List Char := '\\' :: 'u' :: hex 4 n

def writeChar (c : Char) : List Char :=
  if c = '"' ∨ c = '\\' then ['\\', c]
  else if c = '\n' then ['\\', 'n']
  else if c = '\r' then ['\\', 'r']
  else if c = '\t' then ['\\', 't']
  else if c = '\x08' then ['\\', 'b']
  else if c = '\x0c' then ['\\', 'f']
  else if 0x20 ≤ c.toNat ∧ c.toNat < 0x7F then [c]
  else if c.toNat < 0x10000 then unitEscape c.toNat
  else
    let n := c.toNat - 0x10000
    unitEscape (0xD800 + n / 0x400) ++ unitEscape (0xDC00 + n % 0x400)

def writeString (s : String) : String :=
  String.ofList ('"' :: s.toList.flatMap writeChar ++ ['"'])

/-- The text of a number that may have a fraction. -/
def writeFloat : Binary64 → String
  | .notANumber => "NaN"
  | .infinite negative => if negative then "-Infinity" else "Infinity"
  | x => x.text

/-- The layout of lists and objects: what separates items, and what comes before the first and
    after the last item at a given depth. -/
structure Layout where
  /-- Stands between items, before the next line. -/
  comma : String
  /-- Stands between a name and its value. -/
  colon : String
  /-- Goes to the next line at a given depth. -/
  newLine : Nat → String

/-- Everything on one line, without blanks. -/
def Layout.compact : Layout := ⟨",", ":", fun _ => ""⟩

/-- One item a line, two blanks for each level. -/
def Layout.indented : Layout :=
  ⟨",", ": ", fun depth => "\n" ++ String.ofList (List.replicate (2 * depth) ' ')⟩

mutual

/-- Text of a value at a depth. -/
def write (layout : Layout) (depth : Nat) : Json → String
  | null => "null"
  | bool b => if b then "true" else "false"
  | int n => toString n
  | float x => writeFloat x
  | str s => writeString s
  | arr items =>
    if items.isEmpty then "[]"
    else
      "[" ++ writeItems layout (depth + 1) true items ++ layout.newLine depth ++ "]"
  | obj members =>
    if members.isEmpty then "\x7b\x7d"
    else
      "\x7b" ++ writeMembers layout (depth + 1) true members ++ layout.newLine depth ++ "\x7d"

/-- Text of the items of a list, each on its line; `first` says whether one came before. -/
def writeItems (layout : Layout) (depth : Nat) (first : Bool) : List Json → String
  | [] => ""
  | v :: rest =>
    (if first then "" else layout.comma) ++ layout.newLine depth ++ write layout depth v ++
      writeItems layout depth false rest

/-- Text of the members of an object, each on its line. -/
def writeMembers (layout : Layout) (depth : Nat) (first : Bool) : List (String × Json) → String
  | [] => ""
  | (name, v) :: rest =>
    (if first then "" else layout.comma) ++ layout.newLine depth ++ writeString name ++
      layout.colon ++ write layout depth v ++ writeMembers layout depth false rest

end

def pretty (j : Json) : String := write .indented 0 j

def compact (j : Json) : String := write .compact 0 j

/-! ### Display -/

mutual

/-- Text of a value inside another. -/
def displayInside : Json → String
  | null => "None"
  | bool b => if b then "True" else "False"
  | int n => toString n
  | float x => x.text
  | str s => Text.quoted s
  | arr items => "[" ++ displayItems true items ++ "]"
  | obj members => "\x7b" ++ displayMembers true members ++ "\x7d"

/-- Text of the items of a list; `first` says whether none came before. -/
def displayItems (first : Bool) : List Json → String
  | [] => ""
  | v :: rest => (if first then "" else ", ") ++ displayInside v ++ displayItems false rest

/-- Text of the members of an object; `first` says whether none came before. -/
def displayMembers (first : Bool) : List (String × Json) → String
  | [] => ""
  | (name, v) :: rest =>
    (if first then "" else ", ") ++ Text.quoted name ++ ": " ++ displayInside v ++
      displayMembers false rest

end

/-- Text of a value; a string is its own text. -/
def display : Json → String
  | str s => s
  | v => displayInside v

end BundleGraph.Json
