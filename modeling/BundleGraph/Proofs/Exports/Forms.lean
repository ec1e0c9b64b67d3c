import BundleGraph.Exports.Names
import BundleGraph.Proofs.Syntax.Places

/-! # What an export statement says

    The tree of an export statement keeps all of its words. `Export` is what is
    left of it when only the names count: a clause with its specifiers, all names
    of another module, a default export, a declaration. `Says` relates the two by
    the shape of the tree; it does not ask which names the statement exports.

    `Export.names` does: it lists the names that a module is given by such a
    statement, form by form.
-/

namespace BundleGraph.Syntax.Node

/-! ### Words in a tree -/

/-- The children of a node that are no comments. -/
def constituents (n : Node) : List Node := n.children.filter fun c => c.kind ≠ .comment

/-- The token `word`, which plays no part. -/
structure IsToken (n : Node) (word : String) : Prop where
  role : n.role = none
  kind : n.kind = .token
  text : n.text = word

/-- A string: its content between two equal quotation marks. -/
structure IsLiteral (n : Node) (q : Char) (content : List Char) : Prop where
  kind : n.kind = .string
  quote : q ∈ Source.quotes
  text : n.text = String.ofList (q :: content ++ [q])

/-- A word spells itself, also a keyword in the place of a name; a string spells what stands between
    its quotation marks. -/
inductive Spells (n : Node) : String → Prop where
  | word (kind : n.kind ∈ [.identifier, .token])
      (unquoted : ∀ c ∈ n.text.toList.head?, c ∉ Source.quotes) : Spells n n.text
  | literal {q : Char} {content : List Char} (h : n.IsLiteral q content) :
      Spells n (String.ofList content)

end BundleGraph.Syntax.Node

namespace BundleGraph.Exports

open Syntax

/-! ### Clauses -/

/-- A name in a clause, and the name that it is exported under if that is another one. -/
structure Specifier where
  /-- The name inside of the module. -/
  name : String
  /-- The name after `as`. -/
  newName : Option String

/-- The name that a specifier exports: the one after `as`, or else its only one. -/
def Specifier.exported (x : Specifier) : String := x.newName.getD x.name

/-- The node is the specifier. -/
inductive IsSpecifier (n : Node) : Specifier → Prop where
  | plain {name : Node} {s : String} (kind : n.kind = .exportSpecifier)
      (name_eq : n.child? .name = some name) (spells : name.Spells s)
      (single : n.child? .newName = none) : IsSpecifier n ⟨s, none⟩
  | renamed {name newName : Node} {s s' : String} (kind : n.kind = .exportSpecifier)
      (name_eq : n.child? .name = some name) (spells : name.Spells s)
      (newName_eq : n.child? .newName = some newName) (spells' : newName.Spells s') :
      IsSpecifier n ⟨s, some s'⟩

/-- The node is the clause with the given specifiers in braces. -/
structure IsClause (n : Node) (specifiers : List Specifier) : Prop where
  role : n.role = none
  kind : n.kind = .exportClause
  /-- What is between the braces and the commas. -/
  specifiers : List.Forall₂ IsSpecifier
    (n.constituents.filter fun c => c.kind = .exportSpecifier) specifiers

/-! ### Declarations -/

/-- What a declaration declares. -/
inductive Declared where
  /-- One name; the kind tells functions, classes and types apart. -/
  | named (kind : Kind) (name : String)
  /-- Variables in their order; a pattern is none. -/
  | bindings (targets : List (Option String))
  /-- What is declared is defined elsewhere. -/
  | ambient (inner : Declared)
  /-- A namespace, or another name for one. -/
  | other

/-- What a declarator gives a value to, unless that is a pattern. -/
def target? (declarator : Node) : Option String :=
  (declarator.child? .name).bind fun c => if c.kind = .identifier then some c.text else none

/-- Kinds of declarations that give no names of their own. -/
def silentDeclarations : List Kind := [.namespaceDeclaration, .importAlias, .statement]

/-- What a declaration of the surroundings of a program is made of. -/
def surroundingKinds : List Kind :=
  [.token, .block, .propertyName, .type, .string, .number, .template]

/-- The node is a declaration of this. -/
inductive Declares : Node → Declared → Prop where
  | named {n name : Node} (kind : n.kind ∈ namedDeclarations)
      (name_eq : n.child? .name = some name) : Declares n (.named n.kind name.text)
  | bindings {n : Node} (kind : n.kind ∈ variableDeclarations)
      (targets : ∀ d ∈ n.constituents, d.kind = .variableDeclarator → (d.child? .name).isSome) :
      Declares n (.bindings ((n.constituents.filter fun c => c.kind = .variableDeclarator).map
        target?))
  | ambient {n w inner : Node} {d : Declared} (kind : n.kind = .ambientDeclaration)
      (parts : n.constituents = [w, inner]) (word : w.IsToken "declare") (h : Declares inner d) :
      Declares n (.ambient d)
  /-- What a program finds around it, or a property of it. -/
  | surroundings {n w : Node} {rest : List Node} (kind : n.kind = .ambientDeclaration)
      (parts : n.constituents = w :: rest) (word : w.IsToken "declare")
      (plain : ∀ c ∈ rest, c.kind ∈ surroundingKinds) : Declares n .other
  | silent {n : Node} (kind : n.kind ∈ silentDeclarations) : Declares n .other

namespace Declared

/-- The names that a declaration gives. -/
def names : Declared → List String
  | named _ name => [name]
  | bindings targets => targets.filterMap id
  | ambient inner => inner.names
  | other => []

/-- Kinds of functions and classes, with and without a body. -/
def valueKinds : List Kind :=
  [.functionDeclaration, .functionSignature, .generatorDeclaration, .classDeclaration,
    .abstractClassDeclaration]

/-- Whether a function or a class is declared. -/
def isValue : Declared → Bool
  | named kind _ => kind ∈ valueKinds
  | _ => false

end Declared

/-! ### Statements -/

/-- What an export statement says. -/
inductive Export where
  /-- Names in braces, of this module or of another one. -/
  | clause (specifiers : List Specifier)
  /-- All names of another module. -/
  | all
  /-- All names of another module under one name. -/
  | allAs (name : String)
  /-- The value of an expression, by default. -/
  | defaultValue
  /-- A declaration, by default. -/
  | defaultDeclaration (d : Declared)
  | declaration (d : Declared)
  /-- A value in the place of all exports. -/
  | assignment
  /-- Another name for a member of a namespace. -/
  | memberAlias
  /-- A name for the module where modules are not used. -/
  | globalName

/-- What stands behind the word `export`. -/
def Behind (n : Node) (rest : List Node) : Prop :=
  ∃ before w, n.constituents = before ++ w :: rest ∧ w.IsToken "export" ∧
    ∀ d ∈ before, d.kind = .decorator ∧ d.role = none

/-- The end of an export: the module that names come from, and a semicolon. -/
def IsEnding (c : Node) : Prop :=
  c.role = none ∧ (c.kind = .string ∨ c.kind = .object ∨
    ∃ w ∈ ["from", "with", "assert", ";"], c.IsToken w)

/-- What stands behind the word `export` means this. -/
inductive Means : List Node → Export → Prop where
  | clause {types ending : List Node} {clause : Node} {specifiers : List Specifier}
      (word : ∀ c ∈ types, c.IsToken "type") (h : IsClause clause specifiers)
      (end_ : ∀ c ∈ ending, IsEnding c) : Means (types ++ clause :: ending) (.clause specifiers)
  | all {types ending : List Node} {star : Node} (word : ∀ c ∈ types, c.IsToken "type")
      (h : star.IsToken "*") (end_ : ∀ c ∈ ending, IsEnding c) :
      Means (types ++ star :: ending) .all
  | allAs {types ending : List Node} {inside star w name : Node} {s : String}
      (word : ∀ c ∈ types, c.IsToken "type")
      (kind : inside.kind = .namespaceExport) (role : inside.role = none)
      (inner : inside.constituents = [star, w, name]) (h : star.IsToken "*") (h' : w.IsToken "as")
      (spells : name.Spells s) (end_ : ∀ c ∈ ending, IsEnding c) :
      Means (types ++ inside :: ending) (.allAs s)
  | defaultValue {w value : Node} {ending : List Node} (word : w.IsToken "default")
      (role : value.role = none) (kind : value.kind ≠ .token) (end_ : ∀ c ∈ ending, IsEnding c) :
      Means (w :: value :: ending) .defaultValue
  | defaultDeclaration {w d : Node} {x : Declared} (word : w.IsToken "default")
      (role : d.role = some .declaration) (h : Declares d x) : Means [w, d] (.defaultDeclaration x)
  | declaration {d : Node} {x : Declared} (role : d.role = some .declaration) (h : Declares d x) :
      Means [d] (.declaration x)
  | assignment {m value : Node} {ending : List Node} (word : m.IsToken "=")
      (role : value.role = none) (end_ : ∀ c ∈ ending, IsEnding c) :
      Means (m :: value :: ending) .assignment
  | memberAlias {a : Node} (kind : a.kind = .importAlias) (role : a.role = none) :
      Means [a] .memberAlias
  | globalName {a w name : Node} {ending : List Node} (word : a.IsToken "as")
      (word' : w.IsToken "namespace") (kind : name.kind = .identifier) (role : name.role = none)
      (end_ : ∀ c ∈ ending, IsEnding c) : Means (a :: w :: name :: ending) .globalName

/-- The node is an export statement that says this. -/
def Says (n : Node) (e : Export) : Prop := ∃ rest, Behind n rest ∧ Means rest e

/-- The names that a module exports by such a statement. A function or a class that is exported by
    default has no other name than that outside of the module, whatever form its declaration has. -/
def Export.names : Export → List String
  | clause specifiers => specifiers.map Specifier.exported
  | allAs name => [name]
  | defaultValue => ["default"]
  | defaultDeclaration d => if d.isValue then ["default"] else d.names
  | declaration d => d.names
  | _ => []

end BundleGraph.Exports
