import BundleGraph.Syntax.Grammar.Basic

/-! # Templates

    Text in backquotes, with holes. The text stands where it stands: no comment
    and no white space is skipped in it. Programs and types have templates that
    differ in what fills the holes.
-/

namespace BundleGraph.Syntax.Grammar

/-- The end of template text that goes on at `i`: an escape, a hole or the end of the template. -/
def templateTextFor (s : Source) : Nat → Nat → Nat
  | 0, i => i
  | n + 1, i =>
    if s.test i (fun c => c != backquote && c != '\\') && !s.startsWith i ['$', '{'] then
      templateTextFor s n (i + 1)
    else i

def templateTextEnd? (s : Source) (i : Nat) : Option Nat :=
  let j := templateTextFor s (s.chars.size - i) i
  if i < j then some j else none

def templateEscapeEnd? (s : Source) (i : Nat) : Option Nat :=
  if s.at? i == some '\\' && (s.at? (i + 1)).isSome then some (i + 2) else none

/-- The end of the mark that opens a hole. -/
def holeStartEnd? (s : Source) (i : Nat) : Option Nat :=
  if s.startsWith i ['$', '{'] then some (i + 2) else none

def backquoteEnd? (s : Source) (i : Nat) : Option Nat :=
  if s.at? i == some backquote then some (i + 1) else none

/-- A template whose holes are filled by `filling`. -/
def template (filling : Parser Piece) : Parser Piece := node .template do
  let o ← leaf .token backquoteEnd?
  let parts ← many (firstOf [
    adjacent .templateText templateTextEnd?,
    adjacent .templateEscape templateEscapeEnd?,
    node .templateHole do
      let o ← adjacent .token holeStartEnd?
      let e ← filling
      let c ← mark closeBrace
      pure [o, e, c]])
  let c ← adjacent .token backquoteEnd?
  pure (o :: parts ++ [c])

end BundleGraph.Syntax.Grammar
