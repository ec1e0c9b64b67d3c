import BundleGraph.Syntax.Grammar.Markup

/-! # Expressions

    From the inside out: what stands alone, accesses and calls, operands with
    their signs and assignments, operators by precedence, conditions, and
    expressions between commas.

    An assignment may be an operand: what stands before an assignment sign is
    never more than an access or a pattern.
-/

namespace BundleGraph.Syntax

/-! ### Patterns out of expressions -/

mutual

/-- What an array, an object or one of their members reads as when something is assigned to it. -/
def Node.toPattern : Node → Node
  | .branch r .array cs => .branch r .arrayPattern (Node.toPatterns cs)
  | .branch r .object cs => .branch r .objectPattern (Node.toPatterns cs)
  | .branch r .pair cs => .branch r .pairPattern (Node.toPatterns cs)
  | .branch r .spread cs => .branch r .restPattern (Node.toPatterns cs)
  | .branch r .assignment cs => .branch r .defaultPattern cs
  | n => n

/-- The members of an array or an object as parts of a pattern. -/
def Node.toPatterns : List Node → List Node
  | [] => []
  | n :: ns => n.toPattern :: Node.toPatterns ns

end

/-- The piece as what something is assigned to. -/
def Piece.toPattern (p : Piece) : Piece := { p with node := p.node.toPattern }

namespace Grammar

variable (g : Grammar)

/-! ### What stands alone -/

def arguments : Parser Piece :=
  node .arguments (enclosed "(" (commaList false (one (spread g <|> g .assignment))) ")")

/-- A construction, or the question what is constructed. -/
def new : Parser Piece := do
  let w ← word "new"
  firstOf [
    node .metaProperty do
      let d ← mark "."
      let t ← word "target"
      pure [w, d, t],
    node .new do
      let c ← g .constructed
      let types ← orEmpty (typeArguments g)
      let args ← atMostOne (arguments g)
      pure (w :: c :: types ++ args)]

/-- A module that is loaded when the program runs, or what a module says of itself. -/
def dynamicImport : Parser Piece := do
  let w ← word "import"
  firstOf [
    node .call do
      let args ← arguments g
      pure [w.as .function, args.as .arguments],
    node .metaProperty do
      let d ← mark "."
      let t ← anyName .propertyName
      pure [w, d, t]]

def parenthesized : Parser Piece := node .parenthesized (enclosed "(" (do
  let e ← g .expression
  let type ← orEmpty (typeAfterColon g)
  pure (e :: type)) ")")

/-- A name as a literal or as what stands for an object. -/
def wordAs (kind : Kind) (words : List String) : Parser Piece := leaf kind fun s i =>
  match s.nameEnd? i with
  | some j => if words.contains (s.slice i j) then some j else none
  | none => none

/-- An expression that stands alone. -/
def primary : Parser Piece :=
  firstOf [
    functionExpression g,
    identifier,
    parenthesized g,
    stringLiteral,
    numberLiteral,
    object g,
    array g,
    template (g .expression),
    wordAs .self ["this", "super"],
    wordAs .literalWord ["true", "false", "null"],
    new g,
    classExpression g,
    dynamicImport g,
    do
      require (← theSource).dialect.hasMarkup
      g .markup,
    leaf .regex Source.regexEnd?,
    privateName]

/-! ### Accesses and calls -/

def memberAccess (p : Piece) : Parser Piece := node .member do
  let d ← mark "." <|> mark "?."
  let n ← anyName .propertyName <|> privateName
  pure [p.as .object, d, n.as .property]

def access (p : Piece) : Parser Piece :=
  firstOf [
    memberAccess p,
    node .subscript do
      let d ← atMostOne (mark "?.")
      let o ← mark "["
      let e ← g .expression
      let c ← mark "]"
      pure (p.as .object :: d ++ [o, e.as .index, c]),
    node .nonNull do
      typesOnly
      sameLine
      let m ← mark "!"
      pure [p, m]]

/-- Whether type arguments may stand alone here: nothing follows that they could be given to. -/
def standsAlone : Parser Bool := do
  if ← lineEndsHere then pure true
  else if ← sourceEndsHere then pure true
  else nextMarkOf [")", "]", closeBrace, ",", ";", ":", ".", "?.", "=", "==", "===", "!=", "!==",
    "&&", "||", "??", "?"]

def call (p : Piece) : Parser Piece :=
  firstOf [
    node .call do
      let d ← atMostOne (mark "?.")
      let types ← if d.isEmpty then pure [] else orEmpty (typeArguments g)
      let args ← arguments g
      pure (p.as .function :: d ++ types ++ [args.as .arguments]),
    node .call do
      let t ← template (g .expression)
      pure [p.as .function, t.as .arguments],
    do
      let types ← typeArguments g
      firstOf [
        node .call do
          let args ← arguments g <|> template (g .expression)
          pure (p.as .function :: types ++ [args.as .arguments]),
        node .instantiation do
          require (← standsAlone)
          pure (p :: types)]]

def chain : Parser Piece := do extend (fun p => access g p <|> call g p) (← primary g)

def constructed : Parser Piece := do extend (access g) (← primary g)

def memberChain : Parser Piece := do extend memberAccess (← identifier)

/-- What a decorator applies: an expression in parentheses, or a name with names of members, which
    may be called once. -/
def decorated : Parser Piece :=
  parenthesized g <|> do
    let p ← memberChain
    call g p <|> pure p

/-! ### Operands -/

/-- An assignment, before a colon unless `typed`. -/
def Rule.assignmentWhere (typed : Bool) : Rule := if typed then .assignment else .beforeColon

def arrowFunction (typed : Bool) : Parser Piece := do
  let async ← atMostOne do
    let w ← asyncWord
    notBefore (mark "=>")
    pure w
  let head ← firstOf [
    do
      let x ← identifier
      require (← nextMark "=>")
      pure [x],
    do
      require (← nextMarkOf ["(", "<"])
      let types ← orEmpty (typeParameters g)
      let params ← parameters g
      let result ← if typed then orEmpty (resultAfterColon g) else pure []
      pure (types ++ params :: result)]
  sameLine
  let arrow ← mark "=>"
  if ← nextMark openBrace then
    let body ← g .block
    extend (fun p => access g p <|> call g p)
      (Piece.branch .arrowFunction (async ++ head ++ [arrow, body]))
  else
    let body ← g (Rule.assignmentWhere typed)
    pure (Piece.branch .arrowFunction (async ++ head ++ [arrow, body]))

def yield (typed : Bool) : Parser Piece := node .yield do
  let w ← word "yield"
  let rest ← orEmpty do
    sameLine
    let star ← atMostOne (mark "*")
    let e ← g (Rule.assignmentWhere typed)
    pure (star ++ [e])
  pure (w :: rest)

/-- A sign or a word before an operand. -/
def prefixed (typed : Bool) : Parser Piece :=
  firstOf [
    node .unary do
      let o ← firstOf [mark "!", mark "~", mark "+", mark "-", wordOf ["typeof", "void", "delete"]]
      let e ← g (.operand typed)
      pure [o, e],
    node .update do
      let o ← mark "++" <|> mark "--"
      let e ← g (.operand typed)
      pure [o, e],
    node .await do
      let w ← word "await"
      let e ← g (.operand typed)
      pure [w, e],
    yield g typed]

/-- A type before an operand, in the dialect that has no markup. -/
def typeAssertion (typed : Bool) : Parser Piece := node .typeAssertion do
  require (!(← theSource).dialect.hasMarkup)
  let types ← typeArguments g
  let e ← g (.operand typed)
  pure (types ++ [e])

/-- Kinds of expressions that something can be assigned to. -/
def targetKinds : List Kind :=
  [.identifier, .member, .subscript, .array, .object, .parenthesized, .nonNull]

/-- Signs of assignments that also use the old value. -/
def augmentedMarks : List String :=
  ["+=", "-=", "*=", "/=", "%=", "^=", "&=", "|=", ">>=", ">>>=", "<<=", "**=", "&&=", "||=", "??="]

def assignmentTo (typed : Bool) (p : Piece) : Parser Piece := do
  require (targetKinds.contains p.kind)
  firstOf [
    node .assignment do
      let m ← mark "="
      let e ← g (Rule.assignmentWhere typed)
      pure [p.toPattern.as .left, m, e.as .right],
    node .augmentedAssignment do
      require (← nextMarkOf augmentedMarks)
      let m ← leaf .token fun s i => (s.operator? i).map fun op => i + op.length
      let e ← g (Rule.assignmentWhere typed)
      pure [p.as .left, m, e.as .right]]

/-- A name with accesses and calls, perhaps counted up or down, perhaps assigned to. -/
def counted (typed : Bool) : Parser Piece := do
  let p ← g .chain
  firstOf [
    node .update do
      sameLine
      let m ← mark "++" <|> mark "--"
      pure [p, m],
    assignmentTo g typed p,
    pure p]

def operand (typed : Bool) : Parser Piece :=
  firstOf [
    prefixed g typed,
    do
      require ((← theSource).dialect.hasMarkup && (← nextMark "<"))
      counted g typed,
    arrowFunction g typed,
    typeAssertion g typed,
    counted g typed]

/-! ### Operators -/

/-- An operator with the operand on its right. -/
structure Infix where
  kind : Kind
  /-- Operators of a higher level bind more tightly. -/
  level : Nat
  /-- Whether equal operators are grouped from the right. -/
  fromRight : Bool
  operator : Piece
  right : Piece

def levels : List (String × Nat) :=
  [("**", 14), ("*", 13), ("/", 13), ("%", 13), ("+", 12), ("-", 12), ("<<", 11), (">>", 11),
    (">>>", 11), ("<", 10), (">", 10), ("<=", 10), (">=", 10), ("==", 9), ("!=", 9), ("===", 9),
    ("!==", 9), ("&", 8), ("^", 7), ("|", 6), ("&&", 5), ("||", 4), ("??", 3)]

def wordLevel : Nat := 10

/-- The operator that stands at a place, with its level. -/
def markLevel? : Parser (Option Nat) := fun s i =>
  match s.operator? (s.gap i).stop with
  | some op => some (levels.lookup (String.ofList op), i)
  | none => some (none, i)

def infixed (typed : Bool) : Parser Infix := do
  match ← markLevel? with
  | some level =>
    let op ← leaf .token fun s i => (s.operator? i).map fun op => i + op.length
    let right ← g (.operand typed)
    pure ⟨.binary, level, level == 14, op, right⟩
  | none => firstOf [
    do
      let op ← wordOf ["in", "instanceof"]
      let right ← g (.operand typed)
      pure ⟨.binary, wordLevel, false, op, right⟩,
    do
      typesOnly
      let op ← wordOf ["as", "satisfies"]
      let right ← word "const" <|> g .type
      pure ⟨.asType, wordLevel, false, op, right⟩]

/-- A left operand that waits with its operator for the right one. -/
structure Waiting where
  left : Piece
  kind : Kind
  level : Nat
  operator : Piece

/-- Gives the operand to those that wait and bind at least as tightly as `level`. -/
def give (level : Nat) (p : Piece) : List Waiting → Piece × List Waiting
  | [] => (p, [])
  | w :: ws =>
    if level ≤ w.level then give level (Piece.branch w.kind [w.left, w.operator, p]) ws
    else (p, w :: ws)

/-- Operands and operators in a row, grouped by the levels of the operators. -/
def group (p : Piece) (waiting : List Waiting) : List Infix → Piece
  | [] => (give 0 p waiting).1
  | x :: xs =>
    let (left, waiting) := give (if x.fromRight then x.level + 1 else x.level) p waiting
    group x.right (⟨left, x.kind, x.level, x.operator⟩ :: waiting) xs

def operation (typed : Bool) : Parser Piece := do
  let p ← g (.operand typed)
  let rest ← many (infixed g typed)
  pure (group p [] rest)

/-! ### Conditions and commas -/

/-- A value and a colon. -/
def beforeColon (rule : Rule) : Parser (List Piece) := do
  let e ← g rule
  let c ← mark ":"
  pure [e, c]

/-- An operation, perhaps as a condition with two results. -/
def assignment (typed : Bool) : Parser Piece := do
  let p ← operation g typed
  match ← optional? (mark "?") with
  | none => pure p
  | some q => node .ternary do
    let yes ← if ← hasTypes then beforeColon g .assignment <|> beforeColon g .beforeColon
      else beforeColon g .assignment
    let no ← g (Rule.assignmentWhere typed)
    pure (p :: q :: yes ++ [no])

def expression : Parser Piece := do
  let p ← g .assignment
  let rest ← manyPieces do
    let c ← mark ","
    let e ← g .assignment
    pure [c, e]
  pure (if rest.isEmpty then p else Piece.branch .sequence (p :: rest))

end Grammar

end BundleGraph.Syntax
