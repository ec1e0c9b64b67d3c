import BundleGraph.Syntax.Grammar.Members

/-! # Markup

    Elements in angle brackets. Text between them stands where it stands: no
    comment and no white space is skipped in it.
-/

namespace BundleGraph.Syntax.Grammar

variable (g : Grammar)

/-! ### Elements -/

/-- A name of an element or an attribute, which may have hyphens. -/
def markupNameEnd? (s : Source) (i : Nat) : Option Nat :=
  if s.test i isNameStart then some (s.skip (fun c => isNameChar c || c == '-') i) else none

def elementName : Parser (List Piece) := do
  let start ← leaf .identifier markupNameEnd?
  let more ← manyPieces do
    let d ← mark "." <|> mark ":"
    let n ← leaf .identifier markupNameEnd?
    pure [d, n]
  pure (start :: more)

/-- A value in braces; it may be left out. -/
def braced : Parser Piece := node .parenthesized (enclosed openBrace (orEmpty (one (firstOf [
  node .spread do
    let d ← mark "..."
    let e ← g .assignment
    pure [d, e],
  g .expression]))) closeBrace)

def markupAttribute : Parser Piece :=
  braced g <|> node .markupAttribute do
    let name ← leaf .propertyName markupNameEnd?
    let more ← orEmpty do
      let c ← mark ":"
      let n ← leaf .propertyName markupNameEnd?
      pure [c, n]
    let value ← orEmpty do
      let e ← mark "="
      let v ← firstOf [leaf .string Source.markupStringEnd?, braced g, g .markup]
      pure [e, v]
    pure (name :: more ++ value)

/-- Text between elements. -/
def markupText : Parser Piece := adjacent .markupText fun s i =>
  let j := s.skip (fun c => c != '{' && c != '<') i
  if i < j then some j else none

/-- The end of an element whose opening has been read. -/
def closing : Parser (List Piece) := do
  let o ← bracket '<'
  let d ← bracket '/'
  let name ← orEmpty elementName
  let c ← bracket '>'
  pure (o :: d :: name ++ [c])

def markup : Parser Piece := node .markup do
  let o ← bracket '<'
  let head ← orEmpty do
    let name ← elementName
    let arguments ← orEmpty (typeArguments g)
    let attributes ← many (markupAttribute g)
    pure (name ++ arguments ++ attributes)
  match ← optional? (do require (!head.isEmpty); bracket '/') with
  | some d =>
    let c ← bracket '>'
    pure (o :: head ++ [d, c])
  | none =>
    let c ← bracket '>'
    let inside ← many (firstOf [markupText, braced g, do
      notBefore closing
      g .markup])
    let e ← closing
    pure (o :: head ++ c :: inside ++ e)

end BundleGraph.Syntax.Grammar
