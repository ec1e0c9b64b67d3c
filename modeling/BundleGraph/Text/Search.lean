/-! # Searching text

    Substring search and replacement on lists of characters, where they can be
    reasoned about, and the same operations on strings. A string is found where
    it is a run of neighbouring characters; the empty string is found everywhere.

    Files that are read as text end their lines in three ways: a line feed, a
    carriage return, or both. Reading turns each into one line feed. Positions
    in messages count lines and columns from one, in characters.
-/

namespace BundleGraph.Text

/-! ### Runs of characters -/

/-- Whether `needle` is a run of neighbouring members of the list. -/
def isRun (needle : List Char) : List Char → Bool
  | [] => needle.isEmpty
  | c :: rest => needle.isPrefixOf (c :: rest) || isRun needle rest

theorem isRun_iff (needle hay : List Char) : isRun needle hay = true ↔ needle <:+: hay := by
  induction hay with
  | nil => simp [isRun]
  | cons c rest ih =>
    rw [isRun, Bool.or_eq_true, List.isPrefixOf_iff_prefix, ih, List.infix_cons_iff]

/-- What follows the first run of `needle`, with what precedes it. -/
def splitAtRun (needle : List Char) : List Char → Option (List Char × List Char)
  | [] => if needle.isEmpty then some ([], []) else none
  | c :: rest =>
    if needle.isPrefixOf (c :: rest) then some ([], (c :: rest).drop needle.length)
    else (splitAtRun needle rest).map fun (before, after) => (c :: before, after)

/-- Takes the first run of `needle` out. -/
def dropFirstRun (needle hay : List Char) : List Char :=
  match splitAtRun needle hay with
  | some (before, after) => before ++ after
  | none => hay

/-- Takes every run of `needle` out, from left to right, runs that overlap counting once; the
    empty run is nowhere taken out. `skip` counts the characters that still belong to a run. -/
def dropRunsFrom (needle : List Char) (skip : Nat) : List Char → List Char
  | [] => []
  | c :: rest =>
    match skip with
    | k + 1 => dropRunsFrom needle k rest
    | 0 =>
      if !needle.isEmpty && needle.isPrefixOf (c :: rest) then
        dropRunsFrom needle (needle.length - 1) rest
      else c :: dropRunsFrom needle 0 rest

/-- Takes every run of `needle` out, from left to right. -/
def dropRuns (needle hay : List Char) : List Char := dropRunsFrom needle 0 hay

/-! ### Strings -/

def occursIn (needle hay : String) : Bool := isRun needle.toList hay.toList

theorem occursIn_iff (needle hay : String) :
    occursIn needle hay = true ↔ needle.toList <:+: hay.toList :=
  isRun_iff _ _

def beginsWith (start s : String) : Bool := start.toList.isPrefixOf s.toList

/-- Lower case of the letters A to Z; all other characters stay. -/
def asciiLower (s : String) : String := String.ofList (s.toList.map Char.toLower)

/-- Pieces of a list between the members that are `mark`; there is always at least one piece. -/
def splitOn (mark : Char) : List Char → List (List Char)
  | [] => [[]]
  | c :: rest =>
    if c = mark then [] :: splitOn mark rest
    else
      match splitOn mark rest with
      | [] => [[c]]
      | piece :: pieces => (c :: piece) :: pieces

/-- Drops members that satisfy `p` from both ends. -/
def stripWhile (p : Char → Bool) (cs : List Char) : List Char :=
  ((cs.dropWhile p).reverse.dropWhile p).reverse

/-- The text with `fill` characters after it up to a width; a longer text stays. -/
def padRight (width : Nat) (s : String) : String :=
  s ++ String.ofList (List.replicate (width - s.length) ' ')

/-! ### Lines -/

/-- Turns every end of line into one line feed. -/
def unifyLineEnds : List Char → List Char
  | [] => []
  | '\r' :: '\n' :: rest => '\n' :: unifyLineEnds rest
  | c :: rest => (if c = '\r' then '\n' else c) :: unifyLineEnds rest

/-- A place in a text. -/
structure Place where
  /-- Line, the first is 1. -/
  line : Nat
  /-- Column, the first is 1. -/
  column : Nat
  /-- Number of characters before the place. -/
  offset : Nat
  deriving DecidableEq, Repr

def placeAfter (before : List Char) : Place where
  line := before.count '\n' + 1
  column := (before.reverse.takeWhile (· != '\n')).length + 1
  offset := before.length

def Place.describe (p : Place) : String :=
  "line " ++ toString p.line ++ " column " ++ toString p.column ++ " (char " ++
    toString p.offset ++ ")"

end BundleGraph.Text
