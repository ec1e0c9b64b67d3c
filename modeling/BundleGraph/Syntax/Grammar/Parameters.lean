import BundleGraph.Syntax.Grammar.Basic

/-! # Names, patterns and parameters

    The names of properties, the patterns that bind names, the parameters of
    functions, decorators, and where types stand beside all of them.
-/

namespace BundleGraph.Syntax.Grammar

variable (g : Grammar)

/-! ### Types beside names -/

/-- A colon and a type, in dialects with types. -/
def typeAfterColon : Parser (List Piece) := do
  typesOnly
  let c ← mark ":"
  let t ← g .type
  pure [c, t]

/-- Type arguments, in dialects with types. -/
def typeArguments : Parser (List Piece) := do
  typesOnly
  one (g .typeArguments)

/-- One type parameter with its bound and its default. -/
def typeParameter : Parser (List Piece) := do
  let modifiers ← many do
    let w ← wordOf ["const", "in", "out"]
    require (← looksLike (anyName .typeName))
    pure w
  let name ← freeName .typeName
  let bound ← orEmpty do
    let w ← word "extends"
    let t ← g .type
    pure [w, t]
  let default ← orEmpty do
    let e ← mark "="
    let t ← g .type
    pure [e, t]
  pure (modifiers ++ name :: bound ++ default)

/-- Type parameters between angle brackets, in dialects with types. -/
def typeParameters : Parser (List Piece) := do
  typesOnly
  one (node .typeParameters do
    let o ← bracket '<'
    let ps ← commaList false (typeParameter g)
    let c ← bracket '>'
    pure (o :: ps ++ [c]))

/-- What a function promises of an argument: that it is of a type. -/
def typePredicate : Parser (List Piece) := do
  let asserts ← atMostOne do
    let w ← word "asserts"
    sameLine
    require (← looksLike (anyName .identifier))
    require (!(← nextWord "is"))
    pure w
  let subject ← anyName .identifier
  sameLine
  match ← optional? (word "is") with
  | some w =>
    let t ← g .type
    pure (asserts ++ [subject, w, t])
  | none =>
    require (!asserts.isEmpty)
    pure (asserts ++ [subject])

def resultType : Parser Piece := node .type (typePredicate g) <|> g .type

/-- A colon and a result type, in dialects with types. -/
def resultAfterColon : Parser (List Piece) := do
  typesOnly
  let c ← mark ":"
  let t ← resultType g
  pure [c, t]

/-! ### Names of properties -/

/-- A name in square brackets, known only when the program runs. -/
def computedName : Parser Piece :=
  node .computedName (enclosed "[" (one (g .assignment)) "]")

def propertyName : Parser Piece :=
  firstOf [anyName .propertyName, stringLiteral, numberLiteral, privateName, computedName g]

/-! ### Patterns -/

def initializer : Parser (List Piece) := orEmpty do
  let e ← mark "="
  let v ← g .assignment
  pure [e, v]

/-- A pattern, with a default value where there is one. -/
def patternWithDefault : Parser Piece := do
  let p ← g .pattern
  let i ← initializer g
  pure (if i.isEmpty then p else Piece.branch .defaultPattern (p :: i))

def restPattern : Parser Piece := node .restPattern do
  let d ← mark "..."
  let p ← g .pattern
  pure [d, p]

def memberPattern : Parser Piece :=
  firstOf [
    restPattern g,
    node .pairPattern do
      let name ← propertyName g
      let c ← mark ":"
      let p ← patternWithDefault g
      pure [name.as .key, c, p],
    do
      let name ← freeName .shorthandName
      let i ← initializer g
      pure (if i.isEmpty then name else Piece.branch .shorthandDefault (name :: i))]

def pattern : Parser Piece :=
  firstOf [
    identifier,
    node .objectPattern (enclosed openBrace (commaList false (one (memberPattern g))) closeBrace),
    node .arrayPattern
      (enclosed "[" (commaList true (one (restPattern g <|> patternWithDefault g))) "]")]

/-! ### Parameters -/

def decorator : Parser Piece := node .decorator do
  let a ← mark "@"
  let d ← g .decorated
  pure [a, d]

/-- Words that may stand before a parameter in a constructor. -/
def parameterModifiers : List String := ["public", "private", "protected", "readonly", "override"]

/-- A modifier of a parameter: a word before its pattern. -/
def parameterModifier : Parser Piece := do
  typesOnly
  let w ← wordOf parameterModifiers
  require ((← looksLike (anyName .identifier)) || (← nextMarkOf [openBrace, "["]))
  pure w

def parameter : Parser Piece := node .parameter do
  let decorators ← many (decorator g)
  let modifiers ← many parameterModifier
  let rest ← atMostOne (mark "...")
  let p ← g .pattern <|> do typesOnly; word "this"
  let mayBeAbsent ← atMostOne (do typesOnly; mark "?")
  let type ← orEmpty (typeAfterColon g)
  let i ← initializer g
  pure (decorators ++ modifiers ++ rest ++ p :: mayBeAbsent ++ type ++ i)

def parameters : Parser Piece :=
  node .parameters (enclosed "(" (commaList false (one (parameter g))) ")")

/-- Parameters with type parameters before them and a result type behind them. -/
def signature : Parser (List Piece) := do
  let types ← orEmpty (typeParameters g)
  let params ← parameters g
  let result ← orEmpty (resultAfterColon g)
  pure (types ++ params :: result)

end BundleGraph.Syntax.Grammar
