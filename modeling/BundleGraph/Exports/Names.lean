import BundleGraph.Syntax.Tree

/-! # Names of a module's export statements

    Every export statement of a source names what it exports:

    * a clause names each of its specifiers by its alias, or else by its name;
    * a default export is named `default`, unless what it declares is no value;
    * a declaration is named by what it declares, and a declaration of variables
      by those that are plain names;
    * an assignment to the module's exports names nothing.

    Names are kept as they are written, strings without their quotation marks.
-/

namespace BundleGraph.Exports

open Syntax

def unquoted (name : String) : String :=
  let cs := name.toList
  match cs.head?, cs.getLast? with
  | some a, some b =>
    if 2 ≤ cs.length ∧ a = b ∧ (a = '\'' ∨ a = '"') then String.ofList (cs.drop 1).dropLast
    else name
  | _, _ => name

def namedDeclarations : List Kind :=
  [.functionDeclaration, .generatorDeclaration, .functionSignature, .classDeclaration,
    .abstractClassDeclaration, .interfaceDeclaration, .typeAliasDeclaration, .enumDeclaration]

def variableDeclarations : List Kind := [.lexicalDeclaration, .variableDeclaration]

/-- Declarations that bind a value when they are exported by default. -/
def valueDeclarations : List Kind :=
  [.functionDeclaration, .generatorDeclaration, .classDeclaration, .abstractClassDeclaration]

/-- The name that a declarator gives, unless it is a pattern. -/
def declaratorName (n : Node) : List String :=
  if n.kind = .variableDeclarator then
    match n.child? .name with
    | some name => if name.kind = .identifier then [name.text] else []
    | none => []
  else []

/-- The names that a declaration gives, where it is not ambient. -/
def plainNames (n : Node) : List String :=
  if n.kind ∈ namedDeclarations then ((n.child? .name).map Node.text).toList
  else if n.kind ∈ variableDeclarations then n.namedChildren.flatMap declaratorName
  else []

mutual

/-- The names that a declaration gives; an ambient one gives those of what it declares. -/
def declaredNames : Node → List String
  | .leaf r k g t => plainNames (.leaf r k g t)
  | .branch r k cs => if k = .ambientDeclaration then namesOfAll cs else plainNames (.branch r k cs)

/-- The names that nodes give, as far as they are more than tokens. -/
def namesOfAll : List Node → List String
  | [] => []
  | n :: ns => (if n.isNamed then declaredNames n else []) ++ namesOfAll ns

end

def specifierName (n : Node) : List String :=
  if n.kind = .exportSpecifier then
    (((n.child? .newName).or (n.child? .name)).map fun name => unquoted name.text).toList
  else []

def clauseNames (n : Node) : List String :=
  if n.kind = .exportClause then n.namedChildren.flatMap specifierName else []

def hasToken (n : Node) (text : String) : Bool :=
  n.children.any fun c => c.kind = .token && c.text = text

def statementNames (n : Node) : List String :=
  if hasToken n "=" then []
  else
    match n.child? .declaration with
    | some d =>
      if hasToken n "default" ∧ d.kind ∈ valueDeclarations then ["default"] else declaredNames d
    | none =>
      if hasToken n "default" then ["default"] else n.namedChildren.flatMap clauseNames

/-- The names of all export statements of a tree, in the order of the source. -/
def moduleNames (tree : Node) : List String :=
  tree.visit.flatMap fun n => if n.kind = .exportStatement then statementNames n else []

end BundleGraph.Exports
