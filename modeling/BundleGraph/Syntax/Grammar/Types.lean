import BundleGraph.Syntax.Grammar.Parameters
import BundleGraph.Syntax.Grammar.Template

/-! # Types

    The grammar of type annotations. What is a type stays one coarse kind of
    node; only a call inside a `typeof` is told apart, because it reads like a
    call of a program.
-/

namespace BundleGraph.Syntax.Grammar

variable (g : Grammar)

/-! ### Types with brackets -/

def typeArgumentList : Parser Piece := node .typeArguments do
  let o ← bracket '<'
  let ts ← commaList false (one (g .type))
  let c ← bracket '>'
  pure (o :: ts ++ [c])

/-- The type of an index, or of every key of a type. -/
def indexMember : Parser (List Piece) := do
  let sign ← atMostOne (mark "+" <|> mark "-")
  let readonly ← atMostOne (word "readonly")
  let inside ← enclosed "[" (do
    let name ← anyName .identifier
    let keys ← (typeAfterColon g) <|> do
      let w ← word "in"
      let t ← g .type
      let renamed ← orEmpty do
        let w ← word "as"
        let t ← g .type
        pure [w, t]
      pure (w :: t :: renamed)
    pure (name :: keys)) "]"
  let optionalSign ← atMostOne (mark "+" <|> mark "-")
  let mayBeAbsent ← atMostOne (mark "?")
  let type ← orEmpty (typeAfterColon g)
  pure (sign ++ readonly ++ inside ++ optionalSign ++ mayBeAbsent ++ type)

/-- Words that may stand before a member of an object type. -/
def memberModifierWords : List String :=
  ["readonly", "get", "set", "static", "public", "private", "protected", "async", "override",
    "declare", "abstract"]

/-- A modifier of a member of an object type: a word before its name. -/
def typeMemberModifier : Parser Piece := do
  let w ← wordOf memberModifierWords
  require ((← looksLike (anyName .propertyName)) || (← looksLike stringLiteral) ||
    (← looksLike numberLiteral) || (← nextMarkOf ["[", "*", "#"]))
  pure w

/-- A member of an object type with a name. -/
def namedMember : Parser (List Piece) := do
  let modifiers ← many typeMemberModifier
  let name ← propertyName g
  let mayBeAbsent ← atMostOne (mark "?" <|> mark "!")
  let rest ← orEmpty (signature g <|> typeAfterColon g)
  pure (modifiers ++ name :: mayBeAbsent ++ rest)

def typeMember : Parser (List Piece) := do
  let m ← firstOf [
    signature g,
    do
      let w ← word "new"
      let s ← signature g
      pure (w :: s),
    indexMember g,
    namedMember g]
  let separator ← atMostOne (mark "," <|> mark ";")
  pure (m ++ separator)

def objectType : Parser Piece :=
  node .type (enclosed openBrace (manyPieces (typeMember g)) closeBrace)

def tupleMember : Parser (List Piece) := do
  let rest ← atMostOne (mark "...")
  let name ← orEmpty do
    let name ← anyName .identifier
    let mayBeAbsent ← atMostOne (mark "?")
    let c ← mark ":"
    pure (name :: mayBeAbsent ++ [c])
  let t ← g .type
  let mayBeAbsent ← atMostOne (mark "?")
  pure (rest ++ name ++ t :: mayBeAbsent)

/-! ### Primary types -/

/-- What `typeof` asks for: a name with accesses, perhaps called. -/
def queried : Parser Piece := do
  let start ← anyName .identifier
  extend (fun p => firstOf [
    node .member do
      let d ← mark "." <|> mark "?."
      let n ← anyName .propertyName <|> privateName
      pure [p.as .object, d, n.as .property],
    node .subscript do
      sameLine
      let o ← mark "["
      let i ← stringLiteral <|> numberLiteral <|> identifier
      let c ← mark "]"
      pure [p.as .object, o, i.as .index, c],
    node .call do
      sameLine
      let a ← node .arguments (enclosed "(" (commaList false (one (stringLiteral <|> g .type))) ")")
      pure [p.as .function, a.as .arguments]]) start

/-- A name of a type with its type arguments. -/
def namedType : Parser (List Piece) := do
  let start ← freeName .typeName <|>
    wordOf ["this", "null", "true", "false", "void", "undefined", "const"]
  let more ← manyPieces do
    let d ← mark "."
    let n ← anyName .typeName
    pure [d, n]
  let arguments ← orEmpty (typeArguments g)
  pure (start :: more ++ arguments)

/-- Words that stand before a type and make another of it. -/
def typeOperators : List String := ["keyof", "unique", "readonly"]

/-- A type without arrays around it. -/
def simpleType : Parser Piece :=
  firstOf [
    node .type do
      let w ← wordOf typeOperators
      let t ← g .primaryType
      pure [w, t],
    node .type do
      let w ← word "infer"
      let n ← freeName .typeName
      let bound ← orEmpty do
        let w ← word "extends"
        let t ← g .primaryType
        pure [w, t]
      pure (w :: n :: bound),
    node .type do
      let w ← word "typeof"
      let q ← queried g
      let arguments ← orEmpty (typeArguments g)
      pure (w :: q :: arguments),
    node .type do
      let w ← word "import"
      let a ← enclosed "(" (commaList false (one (g .type))) ")"
      let more ← manyPieces do
        let d ← mark "."
        let n ← anyName .typeName
        pure [d, n]
      let arguments ← orEmpty (typeArguments g)
      pure (w :: a ++ more ++ arguments),
    node .type (namedType g),
    objectType g,
    node .type (enclosed "[" (commaList false (tupleMember g)) "]"),
    node .type (enclosed "(" (one (g .type)) ")"),
    stringLiteral,
    numberLiteral,
    node .type do
      let m ← mark "-"
      let n ← numberLiteral
      pure [m, n],
    template (g .type)]

/-- A type with arrays of it and the types of its members. -/
def primaryType : Parser Piece := do
  let t ← simpleType g
  extend (fun t => node .type do
    sameLine
    let o ← mark "["
    let i ← atMostOne (g .type)
    let c ← mark "]"
    pure (t :: o :: i ++ [c])) t

/-! ### Types with operators -/

def functionType : Parser Piece := node .type do
  let isAbstract ← atMostOne do
    let w ← word "abstract"
    require (← nextWord "new")
    pure w
  let new ← atMostOne (word "new")
  let types ← orEmpty (typeParameters g)
  let params ← parameters g
  let arrow ← mark "=>"
  let result ← resultType g
  pure (isAbstract ++ new ++ types ++ params :: arrow :: [result])

/-- Types joined by bars and ampersands. -/
def joinedType : Parser Piece := do
  let lead ← atMostOne (mark "|" <|> mark "&")
  let member := functionType g <|> g .primaryType
  let t ← member
  let more ← manyPieces do
    let m ← mark "|" <|> mark "&"
    let t ← member
    pure [m, t]
  pure (if lead.isEmpty && more.isEmpty then t else Piece.branch .type (lead ++ t :: more))

def type : Parser Piece := do
  let t ← joinedType g
  let condition ← orEmpty do
    let w ← word "extends"
    let bound ← joinedType g
    let q ← mark "?"
    let yes ← g .type
    let c ← mark ":"
    let no ← g .type
    pure [w, bound, q, yes, c, no]
  pure (if condition.isEmpty then t else Piece.branch .type (t :: condition))

end BundleGraph.Syntax.Grammar
