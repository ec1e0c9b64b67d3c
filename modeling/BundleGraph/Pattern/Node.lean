import BundleGraph.Pattern.CharClass

/-! # Patterns as trees

    The parts of a pattern. `Node.width` bounds the length of what a part can
    stand for: looking back needs a length that is always the same.
-/

namespace BundleGraph.Pattern

inductive Anchor where
  | textStart
  /-- At the start of the text or after a line feed. -/
  | lineStart
  | textEnd
  /-- At the end of the text or before a line feed that ends it. -/
  | lastLineEnd
  /-- At the end of the text or before a line feed. -/
  | lineEnd
  /-- Between a word and what is none, or (`holds` false) anywhere else. -/
  | boundary (ascii : Bool) (holds : Bool)
  deriving DecidableEq, Repr

/-- How a repetition chooses its length. -/
inductive Greed where
  | greedy
  | lazy
  /-- As long as possible, and never less once it was found. -/
  | possessive
  deriving DecidableEq, Repr

inductive Node where
  | empty
  | char (k : CharClass)
  /-- The empty text at certain places. -/
  | anchor (a : Anchor)
  | seq (first second : Node)
  | either (first second : Node)
  /-- Several times, without end if `most` is none. -/
  | repeated (greed : Greed) (least : Nat) (most : Option Nat) (body : Node)
  /-- A part whose text is remembered under a number. -/
  | group (number : Nat) (body : Node)
  /-- A part in parentheses. -/
  | scope (body : Node)
  /-- A part whose first success is final. -/
  | atomic (body : Node)
  /-- The empty text where the body follows, or ends if it is looked `back` for; or where it
      does not. -/
  | look (back : Option Nat) (holds : Bool) (body : Node)
  /-- The text of a group once more. -/
  | same (number : Nat) (rule : Text.CaseRule)
  /-- One of two parts, by whether a group has a text. -/
  | given (number : Nat) (yes no : Node)
  deriving DecidableEq, Repr

/-- Bounds of a length. -/
structure Width where
  least : Nat
  most : Nat
  deriving DecidableEq, Repr

namespace Width

/-- A length above all that count. -/
def limit : Nat := Nat.pow 2 64

/-- Bounds that do not exceed the limit. -/
def bounded (least most : Nat) : Width := ⟨min least limit, min most limit⟩

def always (n : Nat) : Width := ⟨n, n⟩

def add (a b : Width) : Width := bounded (a.least + b.least) (a.most + b.most)

def join (a b : Width) : Width := ⟨min a.least b.least, max a.most b.most⟩

def times (w : Width) (least : Nat) (most : Option Nat) : Width :=
  bounded (w.least * least) <|
    match most with
    | some n => w.most * n
    | none => if w.most = 0 then 0 else limit

/-- The longest length that can be looked back for. -/
def longestBack : Nat := Nat.pow 2 32 - 1

/-- The length that a part always has, if there is one that can be looked back for. -/
def back? (w : Width) : Option Nat :=
  if w.least = w.most ∧ w.least ≤ longestBack then some w.least else none

end Width

namespace Node

/-- Bounds of the length of what a part stands for; the bounds of groups are given. -/
def width (groups : Nat → Width) : Node → Width
  | empty => .always 0
  | char _ => .always 1
  | anchor _ => .always 0
  | seq a b => (a.width groups).add (b.width groups)
  | either a b => (a.width groups).join (b.width groups)
  | repeated _ least most body => (body.width groups).times least most
  | group _ body => body.width groups
  | scope body => body.width groups
  | atomic body => body.width groups
  | look .. => .always 0
  | same n _ => groups n
  | given _ yes no => (yes.width groups).join (no.width groups)

def references : Node → List Nat
  | empty => []
  | char _ => []
  | anchor _ => []
  | seq a b => a.references ++ b.references
  | either a b => a.references ++ b.references
  | repeated _ _ _ body => body.references
  | group _ body => body.references
  | scope body => body.references
  | atomic body => body.references
  | look _ _ body => body.references
  | same n _ => [n]
  | given n yes no => n :: (yes.references ++ no.references)

def ofSeq (parts : List Node) : Node := parts.foldr seq empty

/-- The first part that matches. -/
def ofChoices : List Node → Node
  | [] => empty
  | [a] => a
  | a :: rest => either a (ofChoices rest)

/-- Whether a part can be repeated: conditions on a place and repetitions cannot. -/
def isRepeatable : Node → Bool
  | anchor _ => false
  | repeated .. => false
  | _ => true

end Node

end BundleGraph.Pattern
