import BundleGraph.Text.Folding

/-! # Classes of characters

    A class lists code points, ranges and kinds of characters, and holds for
    what it lists, or for everything else. Case may be disregarded: then a class
    holds for a character if it lists one of its variants.
-/

namespace BundleGraph.Pattern

open Text

inductive CharKind where
  | digit
  | space
  | word
  deriving DecidableEq, Repr

/-- Whether a character is of a kind; within ASCII, or in every script. -/
def CharKind.holds (k : CharKind) (ascii : Bool) (c : Char) : Bool :=
  match k with
  | digit => if ascii then c.isDigit else isDigit c
  | space => isBlank c && (!ascii || (9 ≤ c.toNat && c.toNat ≤ 13) || c == ' ')
  | word => c == '_' || if ascii then c.isAlphanum else isAlphanumeric c

inductive ClassItem where
  | one (n : Nat)
  /-- Code points from one to another. -/
  | range (first last : Nat)
  /-- Characters of a kind, or all others. -/
  | kind (k : CharKind) (ascii : Bool) (negated : Bool)
  deriving DecidableEq, Repr

/-- Whether an item lists a character with the given variants. -/
def ClassItem.lists (c : Char) (variants : List Nat) : ClassItem → Bool
  | one n => variants.contains n
  | range first last => variants.any fun v => first ≤ v && v ≤ last
  | kind k ascii negated => k.holds ascii c != negated

structure CharClass where
  /-- Whether it holds for what it does not list. -/
  negated : Bool
  /-- What it lists. -/
  items : List ClassItem
  /-- How far case counts. -/
  rule : CaseRule
  deriving DecidableEq, Repr

namespace CharClass

def holds (k : CharClass) (c : Char) : Bool :=
  let variants := k.rule.variants c.toNat
  (k.items.any fun i => i.lists c variants) != k.negated

def single (rule : CaseRule) (n : Nat) : CharClass := ⟨false, [.one n], rule⟩

def everything : CharClass := ⟨true, [], .exact⟩

/-- The class of all characters but the line feed. -/
def withinLine : CharClass := ⟨true, [.one 10], .exact⟩

end CharClass

end BundleGraph.Pattern
