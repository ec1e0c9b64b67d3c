import BundleGraph.Syntax.Grammar.Declarations

/-! # Statements

    What is executed, and the statements by which a module imports and exports.
-/

namespace BundleGraph.Syntax.Grammar

variable (g : Grammar)

/-! ### Imports -/

/-- What an import or an export says of the kind of its module. -/
def importAttributes : Parser (List Piece) := orEmpty do
  let w ← word "with" <|> leadWord "assert"
  let o ← object g
  pure [w, o]

/-- The module that names come from. -/
def fromClause : Parser (List Piece) := do
  let w ← word "from"
  let s ← stringLiteral
  let a ← importAttributes g
  pure (w :: s :: a)

/-- A name that is imported, perhaps under another name. -/
def importSpecifier : Parser (List Piece) := do
  let modifier ← atMostOne do
    let w ← wordOf ["type", "typeof"]
    require ((← looksLike (anyName .identifier)) && !(← nextWord "as"))
    pure w
  let name ← anyName .identifier <|> stringLiteral
  let newName ← orEmpty do
    let w ← word "as"
    let n ← identifier
    pure [w, n]
  pure (modifier ++ name :: newName)

/-- All names of a module as one object, or some of its names. -/
def importedNames : Parser (List Piece) :=
  (do
    let s ← mark "*"
    let w ← word "as"
    let n ← identifier
    pure [s, w, n]) <|> enclosed openBrace (commaList false importSpecifier) closeBrace

def importClause : Parser (List Piece) :=
  (do
    let name ← identifier
    let more ← orEmpty do
      let c ← mark ","
      let ns ← importedNames
      pure (c :: ns)
    pure (name :: more)) <|> importedNames

def importStatement : Parser Piece := node .importStatement do
  let w ← word "import"
  let rest ← firstOf [
    do
      let s ← stringLiteral
      let a ← importAttributes g
      pure (s :: a),
    do
      let c ← importClause
      let f ← fromClause g
      pure (c ++ f),
    do
      let t ← wordOf ["type", "typeof", "defer", "source"]
      let c ← importClause
      let f ← fromClause g
      pure (t :: c ++ f),
    do
      typesOnly
      let type ← atMostOne do
        let t ← word "type"
        notBefore (mark "=")
        pure t
      let name ← identifier
      let m ← mark "="
      let r ← word "require"
      let s ← enclosed "(" (one stringLiteral) ")"
      pure (type ++ name :: m :: r :: s)]
  let e ← semicolon
  pure (w :: rest ++ e)

/-! ### Exports -/

/-- A name that a module is known by outside: a word or a string. -/
def exportedName : Parser Piece := anyName .identifier <|> stringLiteral

def exportSpecifier : Parser Piece := node .exportSpecifier do
  let modifier ← atMostOne do
    typesOnly
    let w ← wordOf ["type", "typeof"]
    if ← nextWord "as" then
      require (← looksLike (do let _ ← word "as"; require (← nextMarkOf [",", closeBrace])))
    else require (← looksLike exportedName)
    pure w
  let name ← exportedName
  let newName ← orEmpty do
    let w ← word "as"
    let n ← exportedName
    pure [w, n.as .newName]
  pure (modifier ++ name.as .name :: newName)

def exportClause : Parser Piece :=
  node .exportClause (enclosed openBrace (commaList false (one exportSpecifier)) closeBrace)

/-- All names of a module, perhaps under one name. -/
def exportedAll : Parser (List Piece) :=
  one (node .namespaceExport do
    let s ← mark "*"
    let w ← word "as"
    let n ← exportedName
    pure [s, w, n]) <|> one (mark "*")

/-- What is exported by default: a declaration, or the value of an expression. -/
def defaultExport : Parser (List Piece) := do
  let w ← word "default"
  let rest ← (do
    let d ← g .declaration
    pure [d.as .declaration]) <|> do
    let v ← g .expression
    let e ← semicolon
    pure (v :: e)
  pure (w :: rest)

/-- Exports that only dialects with types have. -/
def typedExport : Parser (List Piece) := do
  typesOnly
  firstOf [
    do
      let t ← word "type"
      let c ← one exportClause <|> exportedAll
      let f ← orEmpty (fromClause g)
      let e ← semicolon
      pure (t :: c ++ f ++ e),
    one importAlias,
    do
      let m ← mark "="
      let v ← g .expression
      let e ← semicolon
      pure (m :: v :: e),
    do
      let a ← word "as"
      let w ← word "namespace"
      let n ← identifier
      let e ← semicolon
      pure (a :: w :: n :: e)]

def exportStatement : Parser Piece := node .exportStatement do
  let decorators ← many (decorator g)
  let w ← word "export"
  let rest ← firstOf [
    do
      let a ← exportedAll
      let f ← fromClause g
      let e ← semicolon
      pure (a ++ f ++ e),
    do
      let c ← exportClause
      let f ← orEmpty (fromClause g)
      let e ← semicolon
      pure (c :: f ++ e),
    typedExport g,
    defaultExport g,
    do
      let d ← g .declaration
      pure [d.as .declaration]]
  pure (decorators ++ w :: rest)

/-! ### Control -/

/-- What a loop goes over, without its parentheses. -/
def loopHead : Parser (List Piece) :=
  firstOf [
    do
      let w ← wordOf ["var", "let", "const", "using"]
      let p ← g .pattern
      let type ← orEmpty (typeAfterColon g)
      let link ← wordOf ["of", "in"]
      let e ← g .expression
      pure (w :: p :: type ++ [link, e]),
    do
      let p ← g .chain
      let link ← wordOf ["of", "in"]
      let e ← g .expression
      pure [p.toPattern.as .left, link, e],
    do
      let first ← firstOf [
        one (mark ";"),
        do
          let d ← variableDeclaration g
          pure [d],
        do
          let e ← g .expression
          let s ← mark ";"
          pure [e, s]]
      let test ← atMostOne (g .expression)
      let s ← mark ";"
      let next ← atMostOne (g .expression)
      pure (first ++ test ++ s :: next)]

/-- A loop over values or while a condition holds. -/
def forStatement : Parser Piece := node .statement do
  let w ← word "for"
  let a ← atMostOne (word "await")
  let head ← enclosed "(" (loopHead g) ")"
  let body ← g .statement
  pure (w :: a ++ head ++ [body])

/-- A statement or a comment of the form that documents have. -/
def statements : Parser (List Piece) :=
  many (leaf .htmlComment Source.htmlCommentEnd? <|> g .statement)

def cases : Parser (List Piece) := many (node .statement do
  let head ← (do
    let w ← word "case"
    let e ← g .expression
    pure [w, e]) <|> one (word "default")
  let c ← mark ":"
  let body ← statements g
  pure (head ++ c :: body))

/-- A block with what is done when it fails and when it ends. -/
def tryStatement : Parser Piece := node .statement do
  let w ← word "try"
  let body ← g .block
  let handler ← atMostOne (node .statement do
    let w ← word "catch"
    let parameter ← orEmpty (enclosed "(" (do
      let p ← g .pattern
      let type ← orEmpty (typeAfterColon g)
      pure (p :: type)) ")")
    let b ← g .block
    pure (w :: parameter ++ [b]))
  let finalizer ← atMostOne (node .statement do
    let w ← word "finally"
    let b ← g .block
    pure [w, b])
  pure (w :: body :: handler ++ finalizer)

/-- A statement that controls others. -/
def control : Parser Piece :=
  firstOf [
    node .statement do
      let w ← word "if"
      let c ← parenthesized g
      let yes ← g .statement
      let no ← orEmpty do
        let w ← word "else"
        let s ← g .statement
        pure [w, s]
      pure (w :: c :: yes :: no),
    forStatement g,
    node .statement do
      let w ← word "while" <|> word "with"
      let c ← parenthesized g
      let body ← g .statement
      pure [w, c, body],
    node .statement do
      let w ← word "do"
      let body ← g .statement
      let u ← word "while"
      let c ← parenthesized g
      let e ← atMostOne (mark ";")
      pure (w :: body :: u :: c :: e),
    node .statement do
      let w ← word "switch"
      let c ← parenthesized g
      let body ← enclosed openBrace (cases g) closeBrace
      pure (w :: c :: body),
    tryStatement g,
    node .statement do
      let w ← word "return"
      let value ← orEmpty do
        sameLine
        one (g .expression)
      let e ← semicolon
      pure (w :: value ++ e),
    node .statement do
      let w ← word "throw"
      let value ← g .expression
      let e ← semicolon
      pure (w :: value :: e),
    node .statement do
      let w ← wordOf ["break", "continue"]
      let target ← orEmpty do
        sameLine
        one (freeName .label)
      let e ← semicolon
      pure (w :: target ++ e),
    node .statement do
      let w ← word "debugger"
      let e ← semicolon
      pure (w :: e)]

def block : Parser Piece := node .block (enclosed openBrace (statements g) closeBrace)

def statement : Parser Piece :=
  firstOf [
    node .statement (one (mark ";")),
    block g,
    exportStatement g,
    importStatement g,
    g .declaration,
    control g,
    node .statement do
      let l ← freeName .label
      let c ← mark ":"
      let s ← g .statement
      pure [l, c, s],
    node .expressionStatement do
      let e ← g .expression
      let s ← semicolon
      pure (e :: s)]

end BundleGraph.Syntax.Grammar
