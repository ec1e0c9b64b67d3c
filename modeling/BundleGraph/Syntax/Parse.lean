import BundleGraph.Syntax.Grammar.Statements

/-! # Reading a source

    `Grammar.step` says how each rule is parsed when the rules it refers to are
    known; `Grammar.upTo n` ties the knot for sources in which rules refer to
    each other at most `n` deep. No source nests deeper than a multiple of its
    length.

    A source that is no program still has a tree. What cannot be read is put
    into error nodes at the top, word by word, and reading goes on behind it.
-/

namespace BundleGraph.Syntax

/-! ### The rules together -/

/-- The parser of a rule, given parsers of all rules. -/
def Grammar.step (g : Grammar) : Rule → Parser Piece
  | .statement => Grammar.statement g
  | .declaration => Grammar.declaration g
  | .block => Grammar.block g
  | .expression => Grammar.expression g
  | .assignment => Grammar.assignment g true
  | .beforeColon => Grammar.assignment g false
  | .operand typed => Grammar.operand g typed
  | .chain => Grammar.chain g
  | .constructed => Grammar.constructed g
  | .decorated => Grammar.decorated g
  | .pattern => Grammar.pattern g
  | .classBody => Grammar.classBody g
  | .markup => Grammar.markup g
  | .type => Grammar.type g
  | .primaryType => Grammar.primaryType g
  | .typeArguments => Grammar.typeArgumentList g

/-- Parsers of all rules that refer to each other at most `n` deep. -/
def Grammar.upTo : Nat → Grammar
  | 0 => fun _ => failure
  | n + 1 => fun r => Grammar.step (upTo n) r

/-! ### Programs -/

/-- The end of a word of any kind, or of one character. -/
def anyWordEnd? (s : Source) (i : Nat) : Option Nat :=
  match s.nameEnd? i with
  | some j => some j
  | none =>
    match s.operator? i with
    | some op => some (i + op.length)
    | none => if i < s.chars.size then some (i + 1) else none

/-- The end of all that is left, where it begins like a comment or a template that does not end. -/
def unendedEnd? (s : Source) (i : Nat) : Option Nat :=
  if s.startsWith i ['/', '*'] || s.at? i == some backquote then some s.chars.size else none

/-- The line that names the program to run a source with. -/
def firstLine : Parser Piece := adjacent .comment fun s i =>
  if i == 0 && s.startsWith 0 ['#', '!'] then some (s.lineEnd 0) else none

/-- What stands at the top of a source: a statement, or else a word that is no part of one. -/
def topLevel (g : Grammar) : Parser Piece :=
  firstOf [
    leaf .htmlComment Source.htmlCommentEnd?,
    g .statement,
    leaf .error unendedEnd?,
    leaf .error anyWordEnd?]

/-- What is left at the end of a source: comments, and white space before the end. -/
def atEnd : Parser (List Node) := fun s i =>
  let rest := s.gap i
  let last := s.slice rest.stop s.chars.size
  let ending := if rest.blank = "" ∧ last = "" then [] else [.leaf none .token rest.blank last]
  some (rest.comments ++ ending, s.chars.size)

def program (g : Grammar) : Parser Node := do
  let line ← atMostOne firstLine
  let pieces ← many (topLevel g)
  let ending ← atEnd
  pure (.branch none .program ((line ++ pieces).flatMap Piece.nodes ++ ending))

/-- The tree of a source that is one error. -/
def errorTree (text : String) : Node :=
  .branch none .program [.leaf none .error "" text]

/-- A bound for the depth of rules in a source. -/
def depthBound (s : Source) : Nat := 32 * (s.chars.size + 2)

/-- The tree that the rules give for a text. -/
def treeOf (dialect : Dialect) (text : String) : Node :=
  let s : Source := ⟨text.toList.toArray, dialect⟩
  match program (Grammar.upTo (depthBound s)) s 0 with
  | some (tree, _) => tree
  | none => errorTree text

end BundleGraph.Syntax
