import BundleGraph.Json.Value
import BundleGraph.Text.Letters
import BundleGraph.Text.Search

/-! # Checking documents

    A document becomes a record by checks that report everything that is wrong
    with it, in the order of the record's fields, each issue with the path to
    the value. A check that succeeds also counts the fields that were given, so
    that of two records that a value could be the fuller one can be chosen.

    A field goes by two names, its name on the wire and a long form; if a value
    is given under both, the wire name counts. Issues name the field as it was
    found.
-/

namespace BundleGraph.Document

/-! ### Issues -/

/-- A step from a value to one of its parts. -/
inductive Step where
  | name (s : String)
  | index (i : Nat)
  deriving DecidableEq, Repr

inductive Fault where
  | missing
  | notObject
  | notList
  | notString
  /-- Nothing that could be a whole number. -/
  | notInteger
  | integerText
  | fractional
  | notFinite
  /-- Nothing that could be a truth value. -/
  | notBoolean
  /-- A string or number that is no truth value. -/
  | booleanText
  | unknownName
  | negative
  deriving DecidableEq, Repr

/-- A fault with the path to the value that has it. -/
structure Issue where
  /-- Path from the document to the value. -/
  path : List Step
  fault : Fault
  deriving DecidableEq, Repr

/-- The issue seen from one step further out. -/
def Issue.under (s : Step) (i : Issue) : Issue := { i with path := s :: i.path }

/-- A document that failed its checks: the record it should be, and every issue. -/
structure Invalid where
  record : String
  /-- All issues, in the order of the record's fields. -/
  issues : List Issue
  deriving DecidableEq, Repr

def Invalid.headline (e : Invalid) : String :=
  toString e.issues.length ++ " validation error" ++ (if e.issues.length = 1 then "" else "s") ++
    " for " ++ e.record

/-! ### Outcomes -/

inductive Checked (α : Type) where
  /-- A value, with the number of fields that were given for it. -/
  | ok (value : α) (given : Nat)
  | bad (issues : List Issue)

namespace Checked

variable {α β : Type}

/-- Applies a checked function to a checked value; issues of both are kept, in order. -/
def ap (f : Checked (α → β)) (x : Checked α) : Checked β :=
  match f, x with
  | ok f m, ok a n => ok (f a) (m + n)
  | ok _ _, bad is => bad is
  | bad is, ok _ _ => bad is
  | bad is, bad js => bad (is ++ js)

def map (f : α → β) : Checked α → Checked β
  | ok a n => ok (f a) n
  | bad is => bad is

instance : Applicative Checked where
  pure a := ok a 0
  seq f x := ap f (x ())

/-- A single fault at the value itself. -/
def fail (f : Fault) : Checked α := bad [⟨[], f⟩]

/-- The outcome seen from one step further out. -/
def under (s : Step) : Checked α → Checked α
  | ok a n => ok a n
  | bad is => bad (is.map (Issue.under s))

def counted : Checked α → Checked α
  | ok a n => ok a (n + 1)
  | bad is => bad is

/-- Checks every member of a list; issues are placed under the member's index. -/
def traverseFrom (i : Nat) (check : α → Checked β) : List α → Checked (List β)
  | [] => ok [] 0
  | a :: rest => ap (map List.cons (under (.index i) (check a))) (traverseFrom (i + 1) check rest)

/-- The value, or the issues under a record's name. -/
def toExcept (record : String) : Checked α → Except Invalid α
  | ok a _ => .ok a
  | bad is => .error ⟨record, is⟩

end Checked

/-! ### Plain values -/

def string : Json → Checked String
  | .str s => .ok s 0
  | _ => .fail .notString

/-- Whether underscores stand only between digits, and all else is a digit; at least one. -/
def digitGroups : List Char → Bool
  | [] => false
  | [c] => c.isDigit
  | c :: d :: rest => c.isDigit && (if d = '_' then digitGroups rest else digitGroups (d :: rest))

/-- White space around a number in a text; the four separator controls are not. -/
def isNumberSpace (c : Char) : Bool :=
  Text.isBlank c && !(0x1C ≤ c.toNat && c.toNat ≤ 0x1F)

/-- The whole number that a text denotes: blanks around it, a sign, digits in groups, and a
    fraction of zeros are allowed. -/
def integerOfText (s : String) : Option Int :=
  let cs := Text.stripWhile isNumberSpace s.toList
  let (negative, cs) :=
    match cs with
    | '-' :: rest => (true, rest)
    | '+' :: rest => (false, rest)
    | _ => (false, cs)
  let whole := cs.takeWhile (· != '.')
  let fraction := cs.drop (whole.length + 1)
  if digitGroups whole && fraction.all (· == '0') then
    let n : Int := (whole.filter Char.isDigit).foldl
      (fun n d => 10 * n + ((d.toNat - '0'.toNat : Nat) : Int)) 0
    some (if negative then -n else n)
  else none

/-- Whole numbers; also truth values, numbers without a fraction, and texts of whole numbers. -/
def integer : Json → Checked Int
  | .int n => .ok n 0
  | .bool b => .ok (if b then 1 else 0) 0
  | .float x =>
    match x.toInt? with
    | some n => .ok n 0
    | none => .fail (if x.isFinite then .fractional else .notFinite)
  | .str s =>
    match integerOfText s with
    | some n => .ok n 0
    | none => .fail .integerText
  | _ => .fail .notInteger

/-- Whole numbers from zero on. -/
def natural (j : Json) : Checked Nat :=
  match integer j with
  | .ok n given => if 0 ≤ n then .ok n.toNat given else .fail .negative
  | .bad is => .bad is

def trueWords : List String := ["1", "on", "t", "true", "y", "yes"]

def falseWords : List String := ["0", "off", "f", "false", "n", "no"]

def booleanOfInt (n : Int) : Checked Bool :=
  if n = 0 then .ok false 0 else if n = 1 then .ok true 0 else .fail .booleanText

/-- Truth values; also zero and one, and words for them in any case. -/
def boolean : Json → Checked Bool
  | .bool b => .ok b 0
  | .int n => booleanOfInt n
  | .float x =>
    match x.toInt? with
    | some n => booleanOfInt n
    | none => .fail .notBoolean
  | .str s =>
    let word := String.ofList (s.toList.map Char.toLower)
    if trueWords.contains word then .ok true 0
    else if falseWords.contains word then .ok false 0
    else .fail .booleanText
  | _ => .fail .notBoolean

/-- One of a list of names, each of which stands for a value. -/
def oneOf {α : Type} (names : List (String × α)) : Json → Checked α
  | .str s =>
    match names.find? (·.1 = s) with
    | some (_, a) => .ok a 0
    | none => .fail .unknownName
  | _ => .fail .unknownName

def optional {α : Type} (check : Json → Checked α) : Json → Checked (Option α)
  | .null => .ok none 0
  | j => (check j).map some

/-! ### Parts of a value -/

def listOf {α : Type} (j : Json) (check : j.Inside → Checked α) : Checked (List α) :=
  match j.items? with
  | some items => Checked.traverseFrom 0 check items
  | none => .fail .notList

def strings (j : Json) : Checked (List String) := listOf j fun v => string v

def object {α : Type} (j : Json) (fields : Checked α) : Checked α :=
  if j.isObject then fields else .fail .notObject

/-- Names of a field: on the wire, and in the long form. -/
structure FieldName where
  wire : String
  long : String

def FieldName.plain (name : String) : FieldName := ⟨name, name⟩

/-- The value of a field, with the name under which it was found. -/
def find (j : Json) (f : FieldName) : Option (String × j.Inside) :=
  match j.member? f.wire with
  | some v => some (f.wire, v)
  | none => (j.member? f.long).map fun v => (f.long, v)

/-- A field that may be absent. -/
def field {α : Type} (j : Json) (f : FieldName) (absent : α) (check : j.Inside → Checked α) :
    Checked α :=
  match find j f with
  | some (name, v) => ((check v).under (.name name)).counted
  | none => .ok absent 0

/-- A field that must be given. -/
def required {α : Type} (j : Json) (f : FieldName) (check : j.Inside → Checked α) : Checked α :=
  match find j f with
  | some (name, v) => ((check v).under (.name name)).counted
  | none => .bad [⟨[.name f.wire], .missing⟩]

/-! ### Choices -/

/-- The first record if it has at least as many fields given as the second, else the second;
    one that fails its checks does not count. Issues of both are kept under their names. -/
def eitherRecord {α β : Type} (leftName rightName : String) (left : Checked α)
    (right : Checked β) : Checked (α ⊕ β) :=
  match left, right with
  | .ok a m, .ok b n => if n ≤ m then .ok (.inl a) m else .ok (.inr b) n
  | .ok a m, .bad _ => .ok (.inl a) m
  | .bad _, .ok b n => .ok (.inr b) n
  | .bad is, .bad js =>
    .bad (is.map (Issue.under (.name leftName)) ++ js.map (Issue.under (.name rightName)))

end BundleGraph.Document
