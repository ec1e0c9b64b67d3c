import BundleGraph.Terminal.Width
import BundleGraph.Text.Letters
import BundleGraph.Text.Search

/-! # Lines of limited width

    A text is broken into lines between its words. A word that is wider than a
    line is broken too where folding is allowed, and otherwise cut with an
    ellipsis.
-/

namespace BundleGraph.Terminal

open Text

/-! ### Words -/

/-- The next word with the blanks around it, and what follows. -/
def nextWord (cs : List Char) : List Char × List Char :=
  let before := cs.takeWhile isBlank
  let rest := cs.dropWhile isBlank
  let letters := rest.takeWhile (!isBlank ·)
  let rest := rest.dropWhile (!isBlank ·)
  (before ++ letters ++ rest.takeWhile isBlank, rest.dropWhile isBlank)

/-- Words with the blanks around them; blanks alone are no word. -/
def wordsOf : Nat → List Char → List (List Char)
  | 0, _ => []
  | fuel + 1, cs =>
    if cs.all isBlank then []
    else
      let (word, rest) := nextWord cs
      word :: wordsOf fuel rest

def trimEnd (cs : List Char) : List Char := (cs.reverse.dropWhile isBlank).reverse

/-- Pieces of a word that are not wider than a line; `line` is the piece so far, last character
    first, and `used` its width. -/
def chop (limit : Nat) (line : List Char) (used : Nat) : List Char → List (List Char)
  | [] => [line.reverse]
  | c :: rest =>
    if limit < used + charWidth c then line.reverse :: chop limit [c] (charWidth c) rest
    else chop limit (c :: line) (used + charWidth c) rest

/-! ### Breaking -/

/-- Lines so far: complete ones, the last first, and the one that is being filled. -/
structure Filling where
  complete : List (List Char)
  current : List Char
  /-- Width that is taken in the current line. -/
  used : Nat

namespace Filling

/-- Puts a piece at the end of the current line. -/
def put (f : Filling) (piece : List Char) : Filling :=
  { f with current := f.current ++ piece, used := f.used + width piece }

/-- Begins a line with a piece; the first line of all is not empty. -/
def start (f : Filling) (piece : List Char) : Filling :=
  if f.complete = [] ∧ f.current = [] then ⟨[], piece, width piece⟩
  else ⟨f.current :: f.complete, piece, width piece⟩

def addWord (fold : Bool) (limit : Nat) (f : Filling) (word : List Char) : Filling :=
  let needed := width (trimEnd word)
  if f.used + needed ≤ limit then f.put word
  else if limit < needed then
    if fold then (chop limit [] 0 word).foldl start f else f.start word
  else if f.used ≠ 0 then f.start word
  else f.put word

def lines (f : Filling) : List (List Char) := (f.current :: f.complete).reverse

end Filling

/-- Breaks one line into lines of limited width, as far as its words allow it. -/
def breakLine (fold : Bool) (limit : Nat) (cs : List Char) : List (List Char) :=
  let words := wordsOf cs.length cs
  if words = [] then [cs] else (words.foldl (Filling.addWord fold limit) ⟨[], [], 0⟩).lines

/-! ### Fitting -/

/-- Where a line stands in the width that it has. -/
inductive Alignment where
  | left
  | center
  | right
  deriving DecidableEq, Repr

/-- Takes blanks off the end of a line as far as the line is too long. -/
def cropBlanks (limit : Nat) (cs : List Char) : List Char :=
  let blanks := cs.length - (trimEnd cs).length
  cs.take (cs.length - min blanks (cs.length - limit))

/-- A line of at most the given width; what was cut off is marked unless folding is allowed. -/
def cut (fold : Bool) (limit : Nat) (cs : List Char) : List Char :=
  if width cs ≤ limit then cs
  else if fold then fitting limit cs
  else fitting (limit - 1) cs ++ ['…']

def blanks (n : Nat) : List Char := List.replicate n ' '

/-- A line of exactly the given width. -/
def align (a : Alignment) (fold : Bool) (limit : Nat) (cs : List Char) : List Char :=
  match a with
  | .left =>
    let line := cut fold limit cs
    line ++ blanks (limit - width line)
  | .center =>
    let line := cut fold limit (trimEnd cs)
    let before := (limit - width line) / 2
    blanks before ++ line ++ blanks (limit - width line - before)
  | .right =>
    let line := cut fold limit (trimEnd cs)
    blanks (limit - width line) ++ line

/-- The lines of a text, each of exactly the given width. -/
def layOut (a : Alignment) (fold : Bool) (limit : Nat) (cs : List Char) : List (List Char) :=
  (splitOn '\n' cs).flatMap fun line =>
    (breakLine fold limit line).map fun l => align a fold limit (cropBlanks limit l)

end BundleGraph.Terminal
