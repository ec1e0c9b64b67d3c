import BundleGraph.Terminal.Markup
import BundleGraph.Terminal.Wrap

/-! # Tables

    A table has a title, a header and rows, in a frame that is heavy around the
    header. Columns are as wide as their widest cell. If that is too wide for the
    screen, the widest columns shrink, first to the width of the next widest,
    and so on; then all shrink alike.
-/

namespace BundleGraph.Terminal

open Text

/-- A column: its header, and where its cells stand. -/
structure Column where
  header : String
  alignment : Alignment
  deriving DecidableEq, Repr

structure Table where
  title : String
  columns : List Column
  rows : List (List String)
  deriving DecidableEq, Repr

def screenWidth : Nat := 80

/-! ### Widths -/

/-- Takes a total off the values in proportion to their ratios, at most as much off each as its
    maximum. -/
def reduceFrom (total ratioSum : Nat) : List (Nat × Nat × Nat) → List Nat
  | [] => []
  | (ratio, maximum, value) :: rest =>
    if ratio ≠ 0 then
      let share := min maximum (roundedShare (ratio * total) ratioSum)
      (value - share) :: reduceFrom (total - share) (ratioSum - ratio) rest
    else value :: reduceFrom total ratioSum rest
where
  /-- The quotient, rounded to the nearest number; a half goes to the even one. -/
  roundedShare (n d : Nat) : Nat :=
    let q := n / d
    if 2 * (n % d) > d ∨ (2 * (n % d) = d ∧ q % 2 = 1) then q + 1 else q

/-- Takes a total off the values in proportion to their ratios. -/
def reduce (total : Nat) (ratios maximums values : List Nat) : List Nat :=
  let ratios := (ratios.zip maximums).map fun (r, m) => if m = 0 then 0 else r
  if totalOf ratios = 0 then values
  else reduceFrom total (totalOf ratios) (ratios.zip (maximums.zip values))

/-- Shrinks the widest columns to the next widest until all fit or are equally wide. -/
def shrinkWidest (limit : Nat) : Nat → List Nat → List Nat
  | 0, widths => widths
  | fuel + 1, widths =>
    let excess := totalOf widths - limit
    let widest := widths.foldl max 0
    let second := (widths.filter (· ≠ widest)).foldl max 0
    if excess = 0 ∨ widest = second then widths
    else
      let ratios := widths.map fun w => if w = widest then 1 else 0
      shrinkWidest limit fuel
        (reduce excess ratios (widths.map fun _ => min excess (widest - second)) widths)

/-- Widths of columns that fit into a limit. -/
def fitWidths (limit : Nat) (widths : List Nat) : List Nat :=
  if totalOf widths ≤ limit then widths
  else
    let shrunk := shrinkWidest limit (totalOf widths + 1) widths
    if totalOf shrunk ≤ limit then shrunk
    else reduce (totalOf shrunk - limit) (shrunk.map fun _ => 1) shrunk shrunk

def textWidth (cs : List Char) : Nat := ((splitOn '\n' cs).map width).foldl max 0

/-! ### Frames -/

/-- The characters of one rule or row: left, filling, between columns, right. -/
structure Edge where
  left : Char
  fill : Char
  between : Char
  right : Char

def Edge.top : Edge := ⟨'┏', '━', '┳', '┓'⟩

def Edge.header : Edge := ⟨'┃', ' ', '┃', '┃'⟩

def Edge.belowHeader : Edge := ⟨'┡', '━', '╇', '┩'⟩

def Edge.row : Edge := ⟨'│', ' ', '│', '│'⟩

def Edge.bottom : Edge := ⟨'└', '─', '┴', '┘'⟩

/-- A line with an edge around and between its parts. -/
def Edge.line (e : Edge) (parts : List (List Char)) : List Char :=
  e.left :: (List.intercalate [e.between] parts) ++ [e.right]

/-- A line without cells. -/
def Edge.rule (e : Edge) (widths : List Nat) : List Char :=
  e.line (widths.map fun w => List.replicate w e.fill)

/-! ### Rendering -/

/-- The lines of a cell, with a blank on both sides. -/
def cellLines (a : Alignment) (columnWidth : Nat) (cell : List Char) : List (List Char) :=
  (layOut a false (columnWidth - 2) cell).map fun l => ' ' :: l ++ [' ']

/-- The lines of a row; cells that have fewer are filled up with blanks. -/
def rowLines (e : Edge) (alignments : List Alignment) (widths : List Nat)
    (cells : List (List Char)) : List (List Char) :=
  let blocks := (alignments.zip (widths.zip cells)).map fun (a, w, c) => (w, cellLines a w c)
  let height := (blocks.map fun b => b.2.length).foldl max 0
  (List.range height).map fun i =>
    e.line (blocks.map fun (w, lines) => (lines[i]?).getD (blanks w))

/-- The text that a cell or a title shows. -/
def visible? (s : String) : Option (List Char) :=
  (shown? s.toList).map fun cs => cs.filter fun c => !isDroppedControl c

def frameWidth (columns : Nat) : Nat := columns + 1

/-- The text of a table; none if a text in it has a wrong style mark. -/
def Table.render? (t : Table) : Option String := do
  let title ← visible? t.title
  let header ← t.columns.mapM fun c => visible? c.header
  let rows ← t.rows.mapM fun r => r.mapM visible?
  let limit := screenWidth - frameWidth t.columns.length
  let widths := fitWidths limit <|
    (List.range t.columns.length).map fun i =>
      min limit (((header :: rows).map fun r => textWidth (r.getD i []) + 2).foldl max 0)
  let alignments := t.columns.map (·.alignment)
  let lines :=
    layOut .center true (totalOf widths + frameWidth t.columns.length) title ++
      [Edge.top.rule widths] ++
      rowLines .header alignments widths header ++
      [Edge.belowHeader.rule widths] ++
      rows.flatMap (rowLines .row alignments widths) ++
      [Edge.bottom.rule widths]
  return String.ofList (lines.flatMap fun l => l ++ ['\n'])

end BundleGraph.Terminal
