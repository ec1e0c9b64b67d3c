import BundleGraph.Syntax.Grammar.Types

/-! # Members of objects and classes

    Methods, fields and properties; and the functions and classes that hold
    them.
-/

namespace BundleGraph.Syntax.Grammar

variable (g : Grammar)

/-- Whether a word before this place is a modifier: the name of a member comes next. -/
def nameIsNext : Parser Bool := do
  if ← looksLike (anyName .propertyName <|> stringLiteral <|> numberLiteral <|> privateName) then
    pure true
  else nextMarkOf ["[", "*", "@"]

/-- One of the words as a modifier of a member. -/
def memberModifier (words : List String) : Parser Piece := do
  let w ← wordOf words
  require (← nameIsNext)
  pure w

/-! ### Functions -/

/-- The word before a function whose results come later. -/
def asyncWord : Parser Piece := do
  let w ← word "async"
  sameLine
  pure w

def functionExpression : Parser Piece := node .function do
  let async ← atMostOne asyncWord
  let w ← word "function"
  let star ← atMostOne (mark "*")
  let name ← atMostOne identifier
  let s ← signature g
  let body ← g .block
  pure (async ++ w :: star ++ name ++ s ++ [body])

/-- A function as a declaration; in dialects with types the body may be missing. -/
def functionDeclaration : Parser Piece := do
  let async ← atMostOne asyncWord
  let w ← word "function"
  let star ← atMostOne (mark "*")
  let name ← identifier
  let s ← signature g
  let start := async ++ w :: star ++ name.as .name :: s
  if ← nextMark openBrace then
    let body ← g .block
    let kind := if star.isEmpty then Kind.functionDeclaration else .generatorDeclaration
    pure (Piece.branch kind (start ++ [body]))
  else
    typesOnly
    let e ← semicolon
    pure (Piece.branch .functionSignature (start ++ e))

/-! ### Objects -/

def objectMethod : Parser Piece := node .method do
  let modifiers ← many (memberModifier ["async", "get", "set", "static"])
  let star ← atMostOne (mark "*")
  let name ← propertyName g
  let mayBeAbsent ← atMostOne (do typesOnly; mark "?")
  require (← nextMarkOf ["(", "<"])
  let s ← signature g
  let body ← g .block
  pure (modifiers ++ star ++ name.as .name :: mayBeAbsent ++ s ++ [body])

def spread : Parser Piece := node .spread do
  let d ← mark "..."
  let e ← g .assignment
  pure [d, e]

/-- A member of an object; a name alone may have a default value, because the object may turn
    out to be a pattern. -/
def objectMember : Parser Piece :=
  firstOf [
    spread g,
    node .pair do
      let name ← propertyName g
      let c ← mark ":"
      let v ← g .assignment
      pure [name.as .key, c, v],
    objectMethod g,
    do
      let name ← anyName .shorthandName
      let i ← initializer g
      pure (if i.isEmpty then name else Piece.branch .shorthandDefault (name :: i))]

def object : Parser Piece :=
  node .object (enclosed openBrace (commaList false (one (objectMember g))) closeBrace)

def array : Parser Piece :=
  node .array (enclosed "[" (commaList true (one (spread g <|> g .assignment))) "]")

/-! ### Classes -/

/-- Words that may stand before a member of a class. -/
def classModifiers : List String :=
  ["static", "async", "get", "set", "accessor", "public", "private", "protected", "readonly",
    "abstract", "override", "declare"]

/-- A member of a class with a name: a method or a field. -/
def classMember : Parser Piece := do
  let decorators ← many (decorator g)
  let modifiers ← many (memberModifier classModifiers)
  let star ← atMostOne (mark "*")
  let name ← propertyName g
  let sign ← atMostOne (do typesOnly; mark "?" <|> mark "!")
  let start := decorators ++ modifiers ++ star ++ name.as .name :: sign
  if ← nextMarkOf ["(", "<"] then
    let s ← signature g
    if ← nextMark openBrace then
      let body ← g .block
      pure (Piece.branch .method (start ++ s ++ [body]))
    else
      typesOnly
      let e ← semicolon <|> one (mark ",")
      pure (Piece.branch .classMember (start ++ s ++ e))
  else
    let type ← orEmpty (typeAfterColon g)
    let i ← initializer g
    let e ← semicolon
    pure (Piece.branch .classMember (start ++ type ++ i ++ e))

def classBody : Parser Piece := node .classBody (enclosed openBrace (many (firstOf [
  mark ";",
  node .classMember do
    let w ← word "static"
    let b ← g .block
    pure [w, b],
  node .classMember do
    typesOnly
    let modifiers ← many (memberModifier classModifiers)
    let m ← indexMember g
    let e ← semicolon
    pure (modifiers ++ m ++ e),
  classMember g])) closeBrace)

/-- What a class extends and implements, and its members. -/
def classTail : Parser (List Piece) := do
  let types ← orEmpty (typeParameters g)
  let parent ← orEmpty do
    let w ← word "extends"
    let c ← g .chain
    let arguments ← orEmpty (typeArguments g)
    pure (w :: c :: arguments)
  let promises ← orEmpty do
    typesOnly
    let w ← word "implements"
    let ts ← commaList1 (one (g .type))
    pure (w :: ts)
  let body ← g .classBody
  pure (types ++ parent ++ promises ++ [body])

/-- A name of a class: not the word before what it extends or implements. -/
def className : Parser Piece := do
  notBefore do
    let _ ← word "implements"
    g .type
  freeName .typeName

def classExpression : Parser Piece := node .classExpression do
  let decorators ← many (decorator g)
  let w ← word "class"
  let name ← atMostOne (className g)
  let tail ← classTail g
  pure (decorators ++ w :: name ++ tail)

def classDeclaration : Parser Piece := do
  let decorators ← many (decorator g)
  let isAbstract ← atMostOne do
    typesOnly
    let w ← word "abstract"
    sameLine
    pure w
  let w ← word "class"
  let name ← className g
  let tail ← classTail g
  let kind := if isAbstract.isEmpty then Kind.classDeclaration else .abstractClassDeclaration
  pure (Piece.branch kind (decorators ++ isAbstract ++ w :: name.as .name :: tail))

end BundleGraph.Syntax.Grammar
