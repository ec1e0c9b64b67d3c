import BundleGraph.Syntax.Source

/-! # Parsers of syntax

    A parser goes from a place in the source to a result and a later place, or
    fails. The result of most is a piece of a tree: a node with the comments
    that stand before it. When pieces are put together, the comments before the
    first stay outside and the others become children; so a comment belongs to
    the innermost node that has words on both sides of it.

    The rules of the language refer to each other in circles. The circles are
    opened here: a rule's parser is given the parsers of all rules as a
    `Grammar`, and `Syntax.Parse` ties the knot.
-/

namespace BundleGraph.Syntax

/-- A parser of a source from a place on. -/
abbrev Parser (α : Type) := ReaderT Source (StateT Nat Option) α

/-- A node with the comments before it. -/
structure Piece where
  before : List Node
  node : Node
  deriving Inhabited

namespace Piece

def nodes (p : Piece) : List Node := p.before ++ [p.node]

def branch (kind : Kind) : List Piece → Piece
  | [] => ⟨[], .branch none kind []⟩
  | p :: ps => ⟨p.before, .branch none kind (p.node :: ps.flatMap nodes)⟩

def as (r : Role) (p : Piece) : Piece := { p with node := p.node.withRole r }

def kind (p : Piece) : Kind := p.node.kind

end Piece

/-- The rules that refer to each other in circles. -/
inductive Rule where
  | statement
  | declaration
  | block
  | expression
  | assignment
  /-- An assignment before a colon, where the type of an arrow function's result would be taken
      for what follows the colon. -/
  | beforeColon
  /-- An operand of operators; `typed` says whether arrow functions may have a result type. -/
  | operand (typed : Bool)
  /-- A name with accesses and calls. -/
  | chain
  /-- What is constructed: a name with accesses. -/
  | constructed
  | decorated
  | pattern
  | classBody
  | markup
  | type
  /-- A type without an arrow or a condition. -/
  | primaryType
  | typeArguments
  deriving DecidableEq, Repr

abbrev Grammar := Rule → Parser Piece

/-! ### Combinators -/

/-- The result, or nothing and no step. -/
def optional? {α : Type} (p : Parser α) : Parser (Option α) := (some <$> p) <|> pure none

def orEmpty (p : Parser (List Piece)) : Parser (List Piece) := p <|> pure []

/-- The piece as a list of one. -/
def one (p : Parser Piece) : Parser (List Piece) := (fun x => [x]) <$> p

def atMostOne (p : Parser Piece) : Parser (List Piece) := orEmpty (one p)

def require (b : Bool) : Parser Unit := if b then pure () else failure

/-- Runs a parser and steps back; the result says whether it succeeded. -/
def looksLike {α : Type} (p : Parser α) : Parser Bool := fun s i =>
  match p s i with
  | some _ => some (true, i)
  | none => some (false, i)

/-- Fails where the parser would succeed. -/
def notBefore {α : Type} (p : Parser α) : Parser Unit := do require (!(← looksLike p))

/-- Repeats a parser while it succeeds and goes on, at most `n` times. -/
def manyFor {α : Type} (p : Parser α) (acc : List α) : Nat → Parser (List α)
  | 0 => pure acc.reverse
  | n + 1 => fun s i =>
    match p s i with
    | some (a, j) => if i < j then manyFor p (a :: acc) n s j else some (acc.reverse, i)
    | none => some (acc.reverse, i)

/-- Repeats a parser while it succeeds and goes on. -/
def many {α : Type} (p : Parser α) : Parser (List α) := fun s i =>
  manyFor p [] (s.chars.size - i) s i

def manyPieces (p : Parser (List Piece)) : Parser (List Piece) := List.flatten <$> many p

/-- Extends a piece while that succeeds and goes on, at most `n` times. -/
def extendFor (p : Piece → Parser Piece) (a : Piece) : Nat → Parser Piece
  | 0 => pure a
  | n + 1 => fun s i =>
    match p a s i with
    | some (b, j) => if i < j then extendFor p b n s j else some (a, i)
    | none => some (a, i)

/-- Extends a piece while that succeeds and goes on. -/
def extend (p : Piece → Parser Piece) (a : Piece) : Parser Piece := fun s i =>
  extendFor p a (s.chars.size - i) s i

def node (kind : Kind) (p : Parser (List Piece)) : Parser Piece := Piece.branch kind <$> p

def firstOf {α : Type} : List (Parser α) → Parser α
  | [] => failure
  | p :: ps => p <|> firstOf ps

/-! ### Words -/

/-- A word that ends where `stop?` says, after its gap. -/
def leaf (kind : Kind) (stop? : Source → Nat → Option Nat) : Parser Piece := fun s i =>
  let g := s.gap i
  match stop? s g.stop with
  | some j => some (⟨g.comments, .leaf none kind g.blank (s.slice g.stop j)⟩, j)
  | none => none

/-- A word that begins without a gap. -/
def adjacent (kind : Kind) (stop? : Source → Nat → Option Nat) : Parser Piece := fun s i =>
  match stop? s i with
  | some j => some (⟨[], .leaf none kind "" (s.slice i j)⟩, j)
  | none => none

def openBrace : String := "\x7b"

def closeBrace : String := "\x7d"

def mark (op : String) : Parser Piece := leaf .token fun s i => s.operatorEnd? op.toList i

/-- A bracket that may be the first character of an operator. -/
def bracket (c : Char) : Parser Piece :=
  leaf .token fun s i => if s.at? i == some c then some (i + 1) else none

def anyName (kind : Kind) : Parser Piece := leaf kind Source.nameEnd?

def word (w : String) : Parser Piece := leaf .token fun s i =>
  match s.nameEnd? i with
  | some j => if s.slice i j == w then some j else none
  | none => none

def wordOf (ws : List String) : Parser Piece := leaf .token fun s i =>
  match s.nameEnd? i with
  | some j => if ws.contains (s.slice i j) then some j else none
  | none => none

def reserved : List String :=
  ["break", "case", "catch", "class", "const", "continue", "debugger", "default", "delete", "do",
    "else", "enum", "export", "extends", "false", "finally", "for", "function", "if", "import",
    "in", "instanceof", "new", "null", "return", "super", "switch", "this", "throw", "true", "try",
    "typeof", "var", "void", "while", "with"]

def freeName (kind : Kind) : Parser Piece := leaf kind fun s i =>
  match s.nameEnd? i with
  | some j => if reserved.contains (s.slice i j) then none else some j
  | none => none

def identifier : Parser Piece := freeName .identifier

def privateName : Parser Piece := leaf .privateName fun s i =>
  if s.at? i == some '#' then s.nameEnd? (i + 1) else none

def stringLiteral : Parser Piece := leaf .string Source.stringEnd?

def numberLiteral : Parser Piece := leaf .number Source.numberEnd?

/-! ### Looking ahead -/

def theSource : Parser Source := fun s i => some (s, i)

def hasTypes : Parser Bool := fun s i => some (s.dialect.hasTypes, i)

/-- Fails in a dialect without type annotations. -/
def typesOnly : Parser Unit := do require (← hasTypes)

def lineEndsHere : Parser Bool := fun s i => some (s.endsLine i (s.gap i).stop, i)

/-- Fails where a line ends before the next word. -/
def sameLine : Parser Unit := do require (!(← lineEndsHere))

def sourceEndsHere : Parser Bool := fun s i => some (s.chars.size ≤ (s.gap i).stop, i)

def nextMark (op : String) : Parser Bool := fun s i =>
  some ((s.operatorEnd? op.toList (s.gap i).stop).isSome, i)

def nextMarkOf (ops : List String) : Parser Bool := fun s i =>
  match s.operator? (s.gap i).stop with
  | some op => some (ops.contains (String.ofList op), i)
  | none => some (false, i)

def nextWord (w : String) : Parser Bool := looksLike (word w)

/-- The end of a statement: a semicolon, or the end of a line, a block or the source. -/
def semicolon : Parser (List Piece) := do
  if ← nextMark ";" then one (mark ";")
  else do
    require ((← nextMark closeBrace) || (← lineEndsHere) || (← sourceEndsHere))
    pure []

/-! ### Lists -/

/-- Items between commas, at most `n` of them; `acc` holds what came before, last first. -/
def commaListFor (holes : Bool) (item : Parser (List Piece)) (acc : List Piece) :
    Nat → Parser (List Piece)
  | 0 => pure acc.reverse
  | n + 1 => do
    let found ← optional? item
    let acc := (found.getD []).reverse ++ acc
    if found.isSome || holes then
      match ← optional? (mark ",") with
      | some c => commaListFor holes item (c :: acc) n
      | none => pure acc.reverse
    else pure acc.reverse

/-- Items between commas; a comma may end the list, and items may be left out where `holes`. -/
def commaList (holes : Bool) (item : Parser (List Piece)) : Parser (List Piece) := fun s i =>
  commaListFor holes item [] (s.chars.size + 1 - i) s i

/-- Items between commas, at least one, without a comma at the end. -/
def commaList1 (item : Parser (List Piece)) : Parser (List Piece) := do
  let first ← item
  let rest ← manyPieces do
    let c ← mark ","
    let i ← item
    pure (c :: i)
  pure (first ++ rest)

def enclosed (opening : String) (inside : Parser (List Piece)) (closing : String) :
    Parser (List Piece) := do
  let o ← mark opening
  let xs ← inside
  let c ← mark closing
  pure (o :: xs ++ [c])

end BundleGraph.Syntax
