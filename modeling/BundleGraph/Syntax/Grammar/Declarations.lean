import BundleGraph.Syntax.Grammar.Expressions

/-! # Declarations

    What gives names to values, types and namespaces.
-/

namespace BundleGraph.Syntax.Grammar

variable (g : Grammar)

/-- A word before a declaration, with the rest of it on the same line. -/
def leadWord (w : String) : Parser Piece := do
  let p ← word w
  sameLine
  pure p

/-! ### Variables -/

/-- A name or a pattern with its type and its value. -/
def declarator : Parser Piece := node .variableDeclarator do
  let p ← g .pattern
  let sure ← atMostOne (do typesOnly; mark "!")
  let type ← orEmpty (typeAfterColon g)
  let i ← initializer g
  pure (p.as .name :: sure ++ type ++ i)

def declarators : Parser (List Piece) := commaList1 (one (declarator g))

def variableDeclaration : Parser Piece :=
  firstOf [
    node .variableDeclaration do
      let w ← word "var"
      let ds ← declarators g
      let e ← semicolon
      pure (w :: ds ++ e),
    node .lexicalDeclaration do
      let w ← wordOf ["let", "const"]
      let ds ← declarators g
      let e ← semicolon
      pure (w :: ds ++ e),
    node .statement do
      let a ← atMostOne (leadWord "await")
      let w ← leadWord "using"
      require (← looksLike identifier)
      let ds ← declarators g
      let e ← semicolon
      pure (a ++ w :: ds ++ e)]

/-! ### Types and namespaces -/

def typeHead : Parser (List Piece) := do
  let name ← freeName .typeName
  let types ← orEmpty (typeParameters g)
  pure (name.as .name :: types)

def interfaceDeclaration : Parser Piece := node .interfaceDeclaration do
  let w ← leadWord "interface"
  let head ← typeHead g
  let parents ← orEmpty do
    let w ← word "extends"
    let ts ← commaList1 (one (g .type))
    pure (w :: ts)
  let body ← objectType g
  pure (w :: head ++ parents ++ [body])

def typeAlias : Parser Piece := node .typeAliasDeclaration do
  let w ← leadWord "type"
  let head ← typeHead g
  let m ← mark "="
  let t ← g .type
  let e ← semicolon
  pure (w :: head ++ m :: t :: e)

def enumeration : Parser Piece := node .enumDeclaration do
  let const ← atMostOne (word "const")
  let w ← word "enum"
  let name ← identifier
  let body ← node .enumBody (enclosed openBrace (commaList false (do
    let n ← propertyName g
    let i ← initializer g
    pure (n :: i))) closeBrace)
  pure (const ++ w :: name.as .name :: [body])

def dottedName : Parser (List Piece) := do
  let n ← identifier
  let more ← manyPieces do
    let d ← mark "."
    let n ← anyName .identifier
    pure [d, n]
  pure (n :: more)

/-- A namespace; outside an ambient declaration it has a body. -/
def namespaceDeclaration : Parser Piece := node .namespaceDeclaration do
  let w ← leadWord "namespace" <|> leadWord "module"
  let name ← one stringLiteral <|> dottedName
  if ← nextMark openBrace then
    let body ← g .block
    pure (w :: name ++ [body])
  else
    let e ← semicolon
    pure (w :: name ++ e)

def importAlias : Parser Piece := node .importAlias do
  let w ← word "import"
  let type ← atMostOne do
    let t ← word "type"
    notBefore (mark "=")
    pure t
  let name ← identifier
  let m ← mark "="
  let target ← dottedName
  let e ← semicolon
  pure (w :: type ++ name :: m :: target ++ e)

/-- A declaration of what is defined elsewhere. -/
def ambientDeclaration : Parser Piece := node .ambientDeclaration do
  let w ← leadWord "declare"
  let rest ← firstOf [
    do
      let o ← word "global"
      let b ← g .block
      pure [o, b],
    do
      let m ← word "module"
      let d ← mark "."
      let n ← anyName .propertyName
      let t ← typeAfterColon g
      let e ← semicolon
      pure (m :: d :: n :: t ++ e),
    one (g .declaration)]
  pure (w :: rest)

def declaration : Parser Piece :=
  firstOf [
    functionDeclaration g,
    classDeclaration g,
    do
      typesOnly
      firstOf [enumeration g, interfaceDeclaration g, typeAlias g, namespaceDeclaration g,
        ambientDeclaration g, importAlias],
    variableDeclaration g]

end BundleGraph.Syntax.Grammar
