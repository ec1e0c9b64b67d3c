import BundleGraph.Yaml.Cursor

/-! # Tags

    A tag says what a node stands for. Where none is written, a plain scalar is
    a number, a truth value or a date if it looks like one, by the rules of
    YAML 1.1; else it is a string.
-/

namespace BundleGraph.Yaml.Tag

/-- What the tags of the format begin with. -/
def standard : String := "tag:yaml.org,2002:"

def null : String := standard ++ "null"
def bool : String := standard ++ "bool"
def int : String := standard ++ "int"
def float : String := standard ++ "float"
def string : String := standard ++ "str"
def timestamp : String := standard ++ "timestamp"
def merge : String := standard ++ "merge"
def value : String := standard ++ "value"
def binary : String := standard ++ "binary"
def sequence : String := standard ++ "seq"
def mapping : String := standard ++ "map"
def set : String := standard ++ "set"
def orderedMap : String := standard ++ "omap"
def pairs : String := standard ++ "pairs"

/-! ### Words -/

def nullWords : List String := ["~", "null", "Null", "NULL", ""]

def trueWords : List String := ["yes", "Yes", "YES", "true", "True", "TRUE", "on", "On", "ON"]

def falseWords : List String := ["no", "No", "NO", "false", "False", "FALSE", "off", "Off", "OFF"]

def infinityWords : List String := [".inf", ".Inf", ".INF"]

def notANumberWords : List String := [".nan", ".NaN", ".NAN"]

/-! ### Numbers -/

def unsigned : List Char → List Char
  | c :: rest => if c == '+' || c == '-' then rest else c :: rest
  | [] => []

/-- Whether a list is not empty and all its members satisfy `p`. -/
def some1 (p : Char → Bool) (cs : List Char) : Bool := !cs.isEmpty && cs.all p

def isDigitOrGap (c : Char) : Bool := c.isDigit || c == '_'

/-- Digits and underscores that begin with a digit. -/
def isDigits (cs : List Char) : Bool := (cs.head?.any Char.isDigit) && cs.all isDigitOrGap

/-- Parts of a number in base 60 behind its first: colons with one or two digits up to 59. -/
def isSixtiesFor : Nat → List Char → Bool
  | 0, _ => false
  | n + 1, cs =>
    match cs with
    | [] => true
    | ':' :: a :: rest =>
      if a.isDigit then
        match rest with
        | b :: rest' =>
          if b.isDigit then a.toNat < '6'.toNat && isSixtiesFor n rest' else isSixtiesFor n rest
        | [] => true
      else false
    | _ => false

/-- Parts of a number in base 60 behind its first, at least one. -/
def isSixties (cs : List Char) : Bool := !cs.isEmpty && isSixtiesFor (cs.length + 1) cs

/-- An exponent with its sign, or nothing. -/
def isExponent : List Char → Bool
  | [] => true
  | e :: s :: ds => (e == 'e' || e == 'E') && (s == '+' || s == '-') && some1 Char.isDigit ds
  | _ => false

/-- Whether a text looks like a whole number. -/
def isInt (cs : List Char) : Bool :=
  let cs := unsigned cs
  let digits := cs.takeWhile isDigitOrGap
  match cs with
  | '0' :: 'b' :: ds => some1 (fun c => c == '0' || c == '1' || c == '_') ds
  | '0' :: 'x' :: ds => some1 (fun c => c.isDigit || ('a' ≤ c && c ≤ 'f') || ('A' ≤ c && c ≤ 'F') ||
      c == '_') ds
  | '0' :: ds => ds.all fun c => ('0' ≤ c && c ≤ '7') || c == '_'
  | c :: _ => c.isDigit && (digits.length == cs.length || isSixties (cs.drop digits.length))
  | [] => false

/-- Whether a text looks like a number with a fraction. -/
def isFloat (cs : List Char) : Bool :=
  let body := unsigned cs
  let whole := body.takeWhile isDigitOrGap
  let rest := body.drop whole.length
  let text := String.ofList cs
  let hasPoint : Bool := match rest with
    | '.' :: fraction => isDigits whole && isExponent (fraction.dropWhile isDigitOrGap)
    | _ => false
  let startsWithPoint : Bool := match cs with
    | '.' :: fraction =>
      isDigits (fraction.takeWhile isDigitOrGap) && isExponent (fraction.dropWhile isDigitOrGap)
    | _ => false
  let inSixties : Bool :=
    let parts := rest.takeWhile fun c => c.isDigit || c == ':'
    match rest.drop parts.length with
    | '.' :: fraction => isDigits whole && isSixties parts && fraction.all isDigitOrGap
    | _ => false
  hasPoint || startsWithPoint || inSixties || infinityWords.contains (String.ofList body) ||
    notANumberWords.contains text

/-! ### Dates -/

/-- Some digits, `least` to `most` of them, and what follows; as many as there are. -/
def digitRun (least most : Nat) (cs : List Char) : Option (List Char × List Char) :=
  let ds := (cs.take most).takeWhile Char.isDigit
  if least ≤ ds.length then some (ds, cs.drop ds.length) else none

def expect (c : Char) : List Char → Option (List Char)
  | d :: rest => if c == d then some rest else none
  | [] => none

/-- The parts of a date, and the zone behind a time if there is one. -/
structure Date where
  year : Nat
  month : Nat
  day : Nat
  /-- Hour, minute and second. -/
  time : Option (Nat × Nat × Nat)
  /-- Hours and minutes between the zone and universal time. -/
  zone : Option (Nat × Nat)
  deriving DecidableEq, Repr

def number (ds : List Char) : Nat := ds.foldl (fun n d => n * 10 + (d.toNat - 48)) 0

/-- What may stand behind a time: nothing, or a zone. -/
def zone? (cs : List Char) : Option (Option (Nat × Nat)) := do
  match cs.dropWhile fun c => c == ' ' || c == '\t' with
  | [] => if cs.isEmpty then some none else none
  | ['Z'] => some none
  | s :: rest =>
    if s == '+' || s == '-' then
      let (h, rest) ← digitRun 1 2 rest
      match rest with
      | [] => some (some (number h, 0))
      | _ =>
        let rest ← expect ':' rest
        let (m, rest) ← digitRun 2 2 rest
        if rest.isEmpty then some (some (number h, number m)) else none
    else none

/-- The time behind a date. -/
def time? (cs : List Char) : Option ((Nat × Nat × Nat) × Option (Nat × Nat)) := do
  let rest ← match cs with
    | 'T' :: rest => some rest
    | 't' :: rest => some rest
    | _ =>
      let rest := cs.dropWhile fun c => c == ' ' || c == '\t'
      if rest.length < cs.length then some rest else none
  let (h, rest) ← digitRun 1 2 rest
  let rest ← expect ':' rest
  let (m, rest) ← digitRun 2 2 rest
  let rest ← expect ':' rest
  let (s, rest) ← digitRun 2 2 rest
  let rest := match rest with
    | '.' :: fraction => fraction.dropWhile Char.isDigit
    | _ => rest
  let zone ← zone? rest
  some ((number h, number m, number s), zone)

/-- The date that a text looks like; a date without a time needs two digits for month and day if
    `strict`. -/
def date? (strict : Bool) (cs : List Char) : Option Date := do
  let (y, rest) ← digitRun 4 4 cs
  let rest ← expect '-' rest
  let (m, rest) ← digitRun 1 2 rest
  let rest ← expect '-' rest
  let (d, rest) ← digitRun 1 2 rest
  if rest.isEmpty then
    if !strict || (m.length == 2 && d.length == 2) then
      some ⟨number y, number m, number d, none, none⟩
    else none
  else
    let (time, zone) ← time? rest
    some ⟨number y, number m, number d, some time, zone⟩

/-! ### Plain scalars -/

def ofPlain (text : String) : String :=
  let cs := text.toList
  if nullWords.contains text then null
  else if trueWords.contains text || falseWords.contains text then bool
  else if isFloat cs then float
  else if isInt cs then int
  else if text == "<<" then merge
  else if (date? true cs).isSome then timestamp
  else if text == "=" then value
  else string

end BundleGraph.Yaml.Tag
