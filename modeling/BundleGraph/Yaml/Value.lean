import BundleGraph.Json.Value
import BundleGraph.Text.Letters
import BundleGraph.Text.Search
import BundleGraph.Yaml.Node

/-! # Values of YAML texts

    A value is what the nodes of a text stand for, by their tags. A mapping that
    merges others takes their pairs before its own; of several pairs with one
    key the last counts.
-/

namespace BundleGraph.Yaml

open Text

inductive Value where
  | null
  | bool (b : Bool)
  | int (n : Int)
  | float (x : Binary64)
  | string (s : String)
  | bytes (bs : List UInt8)
  | date
  | dateTime
  | list (items : List Value)
  | set (items : List Value)
  | map (pairs : List (Value × Value))
  deriving Inhabited

namespace Value

/-! ### Numbers -/

/-- Most digits of a decimal number that are converted. -/
def mostDigits : Nat := 4300

/-- Value of a digit in a base, if it is one. -/
def digit? (base : Nat) (c : Char) : Option Nat :=
  if isHex c ∧ hexValue c < base then some (hexValue c) else none

def naturalOf (base : Nat) (ds : List Char) : Except Fault Nat :=
  if ds.isEmpty ∨ (base = 10 ∧ mostDigits < ds.length) then .error .noNumber
  else
    match ds.mapM (digit? base) with
    | some vs => .ok (vs.foldl (fun n v => n * base + v) 0)
    | none => .error .noNumber

/-- The number that digits with a sign write; blanks around them are no part of it. -/
def integerOf (base : Nat) (cs : List Char) : Except Fault Int :=
  match stripWhile isBlank cs with
  | '-' :: ds => do return -(← naturalOf base ds)
  | '+' :: ds => do return ← naturalOf base ds
  | ds => do return ← naturalOf base ds

/-- A sign in front of a number. -/
def signOf (cs : List Char) : Bool × List Char :=
  match cs with
  | '-' :: rest => (true, rest)
  | '+' :: rest => (false, rest)
  | _ => (false, cs)

/-- Parts of a number between colons, in base 60. -/
def ofSixties (parts : List Int) : Int := parts.foldl (fun n p => n * 60 + p) 0

/-- A whole number in one of the five ways to write it. -/
def intOf (text : String) : Except Fault Value := do
  let cs := text.toList.filter (· != '_')
  if cs.isEmpty then throw .noText
  let (negative, cs) := signOf cs
  let n ← match cs with
    | ['0'] => pure 0
    | '0' :: 'b' :: ds => integerOf 2 ds
    | '0' :: 'x' :: ds => integerOf 16 ds
    | '0' :: _ => integerOf 8 cs
    | _ =>
      if cs.contains ':' then do return .int ((if negative then -1 else 1) *
        ofSixties (← (splitOn ':' cs).mapM (integerOf 10)))
      else integerOf 10 cs
  return .int (if negative then -n else n)

/-- A number as digits and a power of ten. -/
def decimalOf (cs : List Char) : Except Fault (Nat × Int) := do
  let whole := cs.takeWhile Char.isDigit
  let rest := cs.drop whole.length
  let (fraction, rest) := match rest with
    | '.' :: r => (r.takeWhile Char.isDigit, r.dropWhile Char.isDigit)
    | _ => ([], rest)
  if whole.isEmpty ∧ fraction.isEmpty then throw .noNumber
  let exponent ← match rest with
    | [] => pure 0
    | e :: ds => if e == 'e' then integerOf 10 ds else throw .noNumber
  return (Tag.number (whole ++ fraction), exponent - fraction.length)

def floatOf (text : String) : Except Fault Value := do
  let cs := ((text.toList.filter (· != '_')).map Char.toLower)
  if cs.isEmpty then throw .noText
  let (negative, cs) := signOf cs
  let word := String.ofList (stripWhile isBlank cs)
  if word == ".inf" || word == "inf" || word == "infinity" then return .float (.infinite negative)
  else if word == ".nan" || word == "nan" then return .float .notANumber
  else if cs.contains ':' then
    let parts := splitOn ':' cs
    let firsts ← parts.dropLast.mapM (integerOf 10)
    let (digits, scale) ← decimalOf (parts.getLastD [])
    let whole := (ofSixties firsts * 60).toNat
    let places := (-scale).toNat
    return .float (.ofRatio negative (whole * Nat.pow 10 places + digits) (Nat.pow 10 places))
  else
    let (digits, scale) ← decimalOf (stripWhile isBlank cs)
    return .float (.ofDecimal negative digits scale)

/-! ### Truth values, dates, bytes -/

def boolOf (text : String) : Except Fault Value :=
  let word := asciiLower text
  if (Tag.trueWords.map asciiLower).contains word then .ok (.bool true)
  else if (Tag.falseWords.map asciiLower).contains word then .ok (.bool false)
  else .error .noTruth

def daysOf (year month : Nat) : Nat :=
  if month = 2 then
    if year % 4 = 0 ∧ (year % 100 ≠ 0 ∨ year % 400 = 0) then 29 else 28
  else if month ∈ [4, 6, 9, 11] then 30
  else 31

def dateOf (text : String) : Except Fault Value :=
  match Tag.date? false text.toList with
  | none => .error .noDate
  | some d =>
    let dayIsThere : Bool := 1 ≤ d.year ∧ 1 ≤ d.month ∧ d.month ≤ 12 ∧ 1 ≤ d.day ∧
      d.day ≤ daysOf d.year d.month
    let zoneIsThere : Bool := match d.zone with
      | some (h, m) => decide (h * 60 + m < 24 * 60)
      | none => true
    match d.time with
    | none => if dayIsThere then .ok .date else .error .noNumber
    | some (h, m, s) =>
      if dayIsThere && h < 24 && m < 60 && s < 60 && zoneIsThere then .ok .dateTime
      else .error .noNumber

/-- Value of a character of text that stands for bytes. -/
def sixBits? (c : Char) : Option Nat :=
  if c.isUpper then some (c.toNat - 65)
  else if c.isLower then some (c.toNat - 71)
  else if c.isDigit then some (c.toNat + 4)
  else if c == '+' then some 62
  else if c == '/' then some 63
  else none

/-- The bytes that groups of four characters stand for. -/
def bytesOfSixes : List Nat → Option (List UInt8)
  | a :: b :: c :: d :: rest =>
    (bytesOfSixes rest).map
      ([(a * 4 + b / 16).toUInt8, (b % 16 * 16 + c / 4).toUInt8, (c % 4 * 64 + d).toUInt8] ++ ·)
  | [a, b, c] => some [(a * 4 + b / 16).toUInt8, (b % 16 * 16 + c / 4).toUInt8]
  | [a, b] => some [(a * 4 + b / 16).toUInt8]
  | [] => some []
  | [_] => none

/-- The bytes that a text stands for; characters that stand for none are left out. -/
def bytesOf (text : String) : Except Fault Value :=
  let cs := text.toList
  if cs.any fun c => 0x7F < c.toNat then .error .malformed
  else
    let sixes := (cs.takeWhile (· != '=')).filterMap sixBits?
    let marks := (cs.filter (· == '=')).length
    if sixes.length % 4 ≠ 0 ∧ sixes.length % 4 + marks < 4 then .error .malformed
    else
      match bytesOfSixes sixes with
      | some bs => .ok (.bytes bs)
      | none => .error .malformed

/-! ### Nodes -/

/-- The value of a scalar under its tag. -/
def ofScalar (tag text : String) : Except Fault Value :=
  if tag == Tag.null then .ok .null
  else if tag == Tag.bool then boolOf text
  else if tag == Tag.int then intOf text
  else if tag == Tag.float then floatOf text
  else if tag == Tag.string then .ok (.string text)
  else if tag == Tag.timestamp then dateOf text
  else if tag == Tag.binary then bytesOf text
  else .error .malformed

def canBeKey : Value → Bool
  | list _ => false
  | set _ => false
  | map _ => false
  | _ => true

/-- The pairs of a mapping with those that it merges before them, at most `n` mappings deep. -/
def mergedFor : Nat → List (Node × Node) → Except Fault (List (Node × Node))
  | 0, _ => .error .malformed
  | n + 1, pairs => do
    let mergedPairs (v : Node) : Except Fault (List (Node × Node)) :=
      match v with
      | .mapping _ ps => mergedFor n ps
      | _ => .error .malformed
    let tagOf : Node → String
      | .scalar t _ => t
      | .sequence t _ => t
      | .mapping t _ => t
    let isMerge (p : Node × Node) : Bool := tagOf p.1 == Tag.merge
    let merged ← (pairs.filter isMerge).mapM fun p =>
      match p.2 with
      | .sequence _ items => do return (← items.mapM mergedPairs).reverse.flatten
      | v => mergedPairs v
    let own := (pairs.filter fun p => !isMerge p).map fun p =>
      match p.1 with
      | .scalar t text => (Node.scalar (if t == Tag.value then Tag.string else t) text, p.2)
      | k => (k, p.2)
    return merged.flatten ++ own

/-- The value of a node, at most `n` nodes deep. -/
def ofNodeFor : Nat → Node → Except Fault Value
  | 0, _ => .error .malformed
  | n + 1, node => do
    let pairsOf (ps : List (Node × Node)) : Except Fault (List (Value × Value)) := do
      (← mergedFor n ps).mapM fun p => do
        let key ← ofNodeFor n p.1
        if key.canBeKey then return (key, ← ofNodeFor n p.2) else throw .malformed
    match node with
    | .scalar tag text => ofScalar tag text
    | .sequence tag items =>
      if tag == Tag.sequence then return .list (← items.mapM (ofNodeFor n))
      else if tag == Tag.orderedMap || tag == Tag.pairs then
        return .list (← items.mapM fun item =>
          match item with
          | .mapping _ [(k, v)] => do return .list [← ofNodeFor n k, ← ofNodeFor n v]
          | _ => throw .malformed)
      else throw .malformed
    | .mapping tag pairs =>
      if tag == Tag.mapping then return .map (← pairsOf pairs)
      else if tag == Tag.set then return .set ((← pairsOf pairs).map (·.1))
      else throw .malformed

/-- The value of a text; null where there is nothing. -/
def ofText (room : Nat) (text : String) : Except Fault Value := do
  match ← Node.ofText room text with
  | some node => ofNodeFor (4 * text.length + 16) node
  | none => return .null

/-- The value of the text that bytes encode. -/
def ofBytes (room : Nat) (bytes : ByteArray) : Except Fault Value :=
  match String.fromUTF8? bytes with
  | some text => ofText room (String.ofList (unifyLineEnds text.toList))
  | none => .error .undecodable

/-! ### Kinds of values -/

/-- The word for a kind of value in messages. -/
def kindName : Value → String
  | null => "NoneType"
  | bool _ => "bool"
  | int _ => "int"
  | float _ => "float"
  | string _ => "str"
  | bytes _ => "bytes"
  | date => "date"
  | dateTime => "datetime"
  | list _ => "list"
  | set _ => "set"
  | map _ => "dict"

/-- Whether a value counts as nothing. -/
def isBlank : Value → Bool
  | null => true
  | bool b => !b
  | int n => n == 0
  | float x => x.isZero
  | string s => s.isEmpty
  | bytes bs => bs.isEmpty
  | date => false
  | dateTime => false
  | list items => items.isEmpty
  | set items => items.isEmpty
  | map pairs => pairs.isEmpty

mutual

/-- The value as a document value. A date is an object without members, because it is neither a
    string nor a number nor a list; pairs whose key is no string are left out. -/
def toJson : Value → Json
  | null => .null
  | bool b => .bool b
  | int n => .int n
  | float x => .float x
  | string s => .str s
  | bytes bs =>
    match String.fromUTF8? (ByteArray.mk bs.toArray) with
    | some s => .str s
    | none => .obj []
  | date => .obj []
  | dateTime => .obj []
  | list items => .arr (toJsons items)
  | set items => .arr (toJsons items)
  | map pairs => .objOfMembers (members pairs)

def toJsons : List Value → List Json
  | [] => []
  | v :: vs => toJson v :: toJsons vs

/-- The pairs as members of an object. -/
def members : List (Value × Value) → List (String × Json)
  | [] => []
  | (.string k, v) :: rest => (k, toJson v) :: members rest
  | (_, _) :: rest => members rest

end

end Value

end BundleGraph.Yaml
