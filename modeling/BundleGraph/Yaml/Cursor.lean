/-! # Places in a YAML text

    A cursor is the rest of a text with its line and column. Lines end in more
    ways than one; whichever it was, all but the two Unicode separators read as
    a line feed.
-/

namespace BundleGraph.Yaml

/-- Why a text has no value. -/
inductive Fault where
  | malformed
  /-- An explicit number, or an escaped character, that there is none of. -/
  | noNumber
  /-- An explicit truth value that is none. -/
  | noTruth
  /-- An explicit date that is none. -/
  | noDate
  /-- An explicit number without any text. -/
  | noText
  | undecodable
  | tooDeep
  /-- An escape stands for half of a surrogate pair. What comes behind it is not looked at. -/
  | unpaired
  deriving DecidableEq, Repr

/-! ### Classes of characters -/

/-- What stands behind the end of a text. -/
def nul : Char := Char.ofNat 0

def isBreak (c : Char) : Bool :=
  c == '\n' || c == '\r' || c.toNat == 0x85 || c.toNat == 0x2028 || c.toNat == 0x2029

/-- The end of a line or of the text. -/
def endsLine (c : Char) : Bool := isBreak c || c == nul

/-- A space, the end of a line or of the text. -/
def isSpaceOrEnd (c : Char) : Bool := c == ' ' || endsLine c

/-- A space, a tab, the end of a line or of the text. -/
def isBlankOrEnd (c : Char) : Bool := c == '\t' || isSpaceOrEnd c

/-- Characters of names: of anchors, directives and tag handles. -/
def isWordChar (c : Char) : Bool := c.isAlphanum || c == '-' || c == '_'

def isPrintable (c : Char) : Bool :=
  let n := c.toNat
  n == 9 || n == 10 || n == 13 || (0x20 ≤ n && n ≤ 0x7E) || n == 0x85 ||
    (0xA0 ≤ n && n ≤ 0xD7FF) || (0xE000 ≤ n && n ≤ 0xFFFD) || 0x10000 ≤ n

/-! ### Cursors -/

structure Cursor where
  /-- What is left. -/
  rest : List Char
  /-- How much came before. -/
  index : Nat
  line : Nat
  column : Nat
  deriving Inhabited

namespace Cursor

def start (text : List Char) : Cursor := ⟨text, 0, 0, 0⟩

def peek (c : Cursor) (k : Nat) : Char := c.rest.getD k nul

def here (c : Cursor) : Char := c.peek 0

def next (c : Cursor) : Cursor :=
  match c.rest with
  | [] => c
  | ch :: rest =>
    if (isBreak ch && ch != '\r') || (ch == '\r' && rest.head? != some '\n') then
      ⟨rest, c.index + 1, c.line + 1, 0⟩
    else if ch.toNat == 0xFEFF then ⟨rest, c.index + 1, c.line, c.column⟩
    else ⟨rest, c.index + 1, c.line, c.column + 1⟩

def forward (c : Cursor) : Nat → Cursor
  | 0 => c
  | n + 1 => c.next.forward n

/-- The characters from here on that satisfy `p`, and the place behind them. -/
def takeWhile (c : Cursor) (p : Char → Bool) : List Char × Cursor :=
  let run := c.rest.takeWhile p
  (run, c.forward run.length)

/-- The place behind the characters that satisfy `p`. -/
def skip (c : Cursor) (p : Char → Bool) : Cursor := (c.takeWhile p).2

/-- The end of a line, as it reads, and the place behind it; nothing where no line ends. -/
def lineBreak (c : Cursor) : List Char × Cursor :=
  match c.rest with
  | '\r' :: '\n' :: _ => (['\n'], c.forward 2)
  | ch :: _ =>
    if ch == '\n' || ch == '\r' || ch.toNat == 0x85 then (['\n'], c.next)
    else if isBreak ch then ([ch], c.next)
    else ([], c)
  | [] => ([], c)

def startsWith (c : Cursor) (s : String) : Bool := s.toList.isPrefixOf c.rest

def atDocumentMark (c : Cursor) : Bool :=
  (c.startsWith "---" || c.startsWith "...") && isBlankOrEnd (c.peek 3)

end Cursor

end BundleGraph.Yaml
