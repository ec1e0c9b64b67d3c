import BundleGraph.Number.Binary64
import BundleGraph.OrderedMap

/-! # Document values

    The values that documents are made of. Whole numbers are exact, members of
    an object keep their order, and no member name stands twice in a value that
    was read.

    `Inside` is a value together with the reason why it is smaller than the one
    it was taken from, so that a reader of nested documents ends.
-/

namespace BundleGraph

/-- A document value. -/
inductive Json where
  | null
  | bool (b : Bool)
  | int (n : Int)
  | float (x : Binary64)
  | str (s : String)
  | arr (items : List Json)
  | obj (members : List (String × Json))
  deriving BEq, Repr, Inhabited

namespace Json

/-! ### Parts -/

/-- A value that is smaller than `j`. -/
abbrev Inside (j : Json) := { v : Json // sizeOf v < sizeOf j }

/-- First member of a name, in a list of members. -/
def findMember (name : String) : (members : List (String × Json)) →
    Option { v : Json // sizeOf v < sizeOf members }
  | [] => none
  | (k, v) :: rest =>
    if k = name then some ⟨v, by simp; omega⟩
    else (findMember name rest).map fun v => ⟨v.1, by have := v.2; simp; omega⟩

/-- The member of an object that has the given name. -/
def member? (j : Json) (name : String) : Option j.Inside :=
  match j with
  | obj members => (findMember name members).map fun v => ⟨v.1, by have := v.2; simp; omega⟩
  | _ => none

def items? (j : Json) : Option (List j.Inside) :=
  match j with
  | arr items =>
    some (items.attach.map fun v => ⟨v.1, by have := List.sizeOf_lt_of_mem v.2; simp; omega⟩)
  | _ => none

def isObject : Json → Bool
  | obj _ => true
  | _ => false

/-! ### Kinds of values -/

/-- The word for a kind of value in messages. -/
def kindName : Json → String
  | null => "NoneType"
  | bool _ => "bool"
  | int _ => "int"
  | float _ => "float"
  | str _ => "str"
  | arr _ => "list"
  | obj _ => "dict"

/-- Whether a value counts as absent: null, false, zero, or without content. -/
def isBlank : Json → Bool
  | null => true
  | bool b => !b
  | int n => n == 0
  | float x => x.isZero
  | str s => s.isEmpty
  | arr items => items.isEmpty
  | obj members => members.isEmpty

/-- An object from members in which the last of several of one name counts, in the place of
    the first. -/
def objOfMembers (members : List (String × Json)) : Json :=
  obj (OrderedMap.ofListLast members).entries

end Json

end BundleGraph
