import BundleGraph.Unfolding

/-! # Syntax trees

    A syntax tree keeps every character of its source: each leaf holds its text
    and the gap before it, and comments are leaves as well. The kinds are those
    that tell apart what a module exports; kinds of no interest to that are kept
    coarse.

    A node may play a part in its parent: the left side of an assignment, the
    arguments of a call. The part is written on the node.
-/

namespace BundleGraph.Syntax

inductive Kind where
  /-- A keyword, an operator or a bracket; the only nodes without a name. -/
  | token
  | comment
  /-- A comment between `<!--` or `-->` and the end of the line. -/
  | htmlComment
  /-- Text that is no program. -/
  | error
  -- names
  | identifier
  | propertyName
  | privateName
  | shorthandName
  | label
  | typeName
  -- literals
  | string
  | number
  | regex
  | literalWord
  | template
  | templateText
  | templateEscape
  | templateHole
  -- expressions
  /-- What stands for the present object or its parent. -/
  | self
  | array
  | object
  | pair
  | shorthandDefault
  | method
  | computedName
  | spread
  | parenthesized
  | sequence
  | function
  | arrowFunction
  | classExpression
  | call
  | new
  | member
  | subscript
  | arguments
  | metaProperty
  | unary
  | update
  | binary
  | ternary
  | assignment
  | augmentedAssignment
  | yield
  | await
  | asType
  | typeAssertion
  | nonNull
  | instantiation
  | markup
  | markupText
  | markupAttribute
  | decorator
  -- patterns and parameters
  | arrayPattern
  | objectPattern
  | pairPattern
  | restPattern
  | defaultPattern
  | parameters
  | parameter
  -- types
  | type
  | typeArguments
  | typeParameters
  -- declarations
  | functionDeclaration
  | generatorDeclaration
  | functionSignature
  | classDeclaration
  | abstractClassDeclaration
  | classBody
  | classMember
  | interfaceDeclaration
  | typeAliasDeclaration
  | enumDeclaration
  | enumBody
  | namespaceDeclaration
  | importAlias
  | ambientDeclaration
  | variableDeclaration
  | lexicalDeclaration
  | variableDeclarator
  -- statements
  | program
  | block
  | statement
  | expressionStatement
  | importStatement
  | exportStatement
  | exportClause
  | exportSpecifier
  | namespaceExport
  deriving DecidableEq, Repr, Inhabited

/-- The part that a node plays in its parent. -/
inductive Role where
  | object
  | property
  | index
  | left
  | right
  | function
  | arguments
  | name
  | newName
  | key
  | declaration
  deriving DecidableEq, Repr

/-- A node of a syntax tree. -/
inductive Node where
  /-- A piece of text, with the gap between it and what comes before. -/
  | leaf (role : Option Role) (kind : Kind) (gap text : String)
  /-- A node made of nodes. -/
  | branch (role : Option Role) (kind : Kind) (children : List Node)
  deriving Repr, Inhabited

namespace Node

/-! ### Parts -/

def kind : Node → Kind
  | leaf _ k _ _ => k
  | branch _ k _ => k

/-- The part that a node plays in its parent. -/
def role : Node → Option Role
  | leaf r _ _ _ => r
  | branch r _ _ => r

def withRole (r : Role) : Node → Node
  | leaf _ k g t => leaf (some r) k g t
  | branch _ k cs => branch (some r) k cs

def children : Node → List Node
  | leaf .. => []
  | branch _ _ cs => cs

def isNamed (n : Node) : Bool := n.kind ≠ .token

def namedChildren (n : Node) : List Node := n.children.filter isNamed

/-- The first child that plays a part. -/
def child? (n : Node) (r : Role) : Option Node := n.children.find? fun c => c.role = some r

/-! ### Text -/

mutual

/-- The text of a node; `first` says whether the gap before it is left out. -/
def textFrom (first : Bool) : Node → String
  | leaf _ _ g t => if first then t else g ++ t
  | branch _ _ cs => textOfAll first cs

def textOfAll (first : Bool) : List Node → String
  | [] => ""
  | n :: ns => textFrom first n ++ textOfAll false ns

end

/-- The text of a node, from its first token to its last. -/
def text (n : Node) : String := textFrom true n

/-- The text of a node with the gap before it. -/
def source (n : Node) : String := textFrom false n

/-! ### Visiting -/

/-- A node unfolds into its children. -/
def unfolding : Unfolding Node where
  children := children
  smaller
    | leaf r k g t => by
      have positive : 0 < sizeOf r := by
        cases r with
        | none => exact Nat.one_pos
        | some v =>
          rw [Option.some.sizeOf_spec]
          omega
      rw [children, leaf.sizeOf_spec, List.nil.sizeOf_spec]
      omega
    | branch r k cs => by
      rw [children, branch.sizeOf_spec]
      omega

/-- A node and all nodes below it, in the order of the source. -/
def visit (n : Node) : List Node := unfolding.visit n

end Node

/-- A source with its tree. -/
structure Parsed where
  text : String
  tree : Node
  deriving Repr

end BundleGraph.Syntax
