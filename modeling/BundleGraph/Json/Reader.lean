import BundleGraph.Json.Value
import BundleGraph.Text.Search

/-! # Reading document text

    A reader of values from text. It accepts the standard grammar and the three
    words for numbers that are not finite. What is wrong with a text is one of
    ten problems, with the place where it shows; the place of a string that
    does not end is its opening quotation mark.

    A text can be right and still have no value: a whole number can have too many
    digits, values can be nested too deeply, and a string can have half of a
    surrogate pair, which is no character.

    The readers work on the rest of the text and return what they leave. They
    count down from the length of the text, which no nesting can exceed; `room`
    is the number of lists and objects that may still be entered.
-/

namespace BundleGraph.Json

open BundleGraph.Text

inductive Problem where
  | byteOrderMark
  | expectedValue
  | expectedName
  | expectedColon
  | expectedComma
  | extraData
  | unterminatedString
  | controlCharacter
  | escape
  | unicodeEscape
  deriving DecidableEq, Repr

def Problem.message : Problem → String
  | byteOrderMark => "Unexpected UTF-8 BOM (decode using utf-8-sig)"
  | expectedValue => "Expecting value"
  | expectedName => "Expecting property name enclosed in double quotes"
  | expectedColon => "Expecting ':' delimiter"
  | expectedComma => "Expecting ',' delimiter"
  | extraData => "Extra data"
  | unterminatedString => "Unterminated string starting at"
  | controlCharacter => "Invalid control character at"
  | escape => "Invalid \\escape"
  | unicodeEscape => "Invalid \\uXXXX escape"

inductive Fault where
  /-- A problem, with the text that is left where it shows. -/
  | problem (p : Problem) (left : List Char)
  /-- A whole number has more digits than are converted. -/
  | tooManyDigits
  | tooDeep
  /-- A string has half of a surrogate pair. What comes behind it is not looked at. -/
  | unpaired
  deriving DecidableEq, Repr

/-- A reader returns a result and the text that it leaves. -/
abbrev Reading (α : Type) := Except Fault (α × List Char)

def fault {α : Type} (p : Problem) (left : List Char) : Except Fault α := .error (.problem p left)

def isSpace (c : Char) : Bool := c == ' ' || c == '\t' || c == '\n' || c == '\r'

/-- The text from the first part on. -/
def skipSpace (cs : List Char) : List Char := cs.dropWhile isSpace

/-! ### Numbers -/

/-- Whether a character is one of the ten digits. -/
def isDecimalDigit (c : Char) : Bool := '0' ≤ c && c ≤ '9'

def natOfDigits (digits : List Char) : Nat :=
  digits.foldl (fun n d => 10 * n + (d.toNat - '0'.toNat)) 0

/-- The most digits of a whole number that are converted. -/
def maxDigits : Nat := 4300

/-- Digits of a fraction, if a point and a digit come next. -/
def fraction (cs : List Char) : List Char × List Char :=
  match cs with
  | '.' :: d :: rest =>
    if isDecimalDigit d then ((d :: rest).takeWhile isDecimalDigit, rest.dropWhile isDecimalDigit)
    else ([], cs)
  | _ => ([], cs)

/-- An exponent, if a complete one comes next. -/
def exponent (cs : List Char) : Option Int × List Char :=
  match cs with
  | e :: rest =>
    if e = 'e' ∨ e = 'E' then
      let (negative, digits) :=
        match rest with
        | '-' :: more => (true, more)
        | '+' :: more => (false, more)
        | _ => (false, rest)
      match digits.takeWhile isDecimalDigit with
      | [] => (none, cs)
      | ds =>
        let n : Int := natOfDigits ds
        (some (if negative then -n else n), digits.dropWhile isDecimalDigit)
    else (none, cs)
  | [] => (none, cs)

/-- The number with the given whole digits, read on from behind them. -/
def numberFrom (negative : Bool) (whole rest : List Char) : Reading Json :=
  let (places, rest₁) := fraction rest
  let (power, rest₂) := exponent rest₁
  if places.isEmpty && power.isNone then
    if maxDigits < whole.length then .error .tooManyDigits
    else
      let n : Int := natOfDigits whole
      .ok (.int (if negative then -n else n), rest₂)
  else
    .ok (.float (Binary64.ofDecimal negative (natOfDigits (whole ++ places))
      (power.getD 0 - places.length)), rest₂)

/-- Reads a number; `start` is the text at its first character. -/
def number (start : List Char) : Reading Json :=
  let (negative, cs) :=
    match start with
    | '-' :: rest => (true, rest)
    | _ => (false, start)
  match cs with
  | [] => fault .expectedValue start
  | d :: rest =>
    if d = '0' then numberFrom negative ['0'] rest
    else if isDecimalDigit d then
      numberFrom negative (cs.takeWhile isDecimalDigit) (cs.dropWhile isDecimalDigit)
    else fault .expectedValue start

/-! ### Strings -/

def hexDigit? (c : Char) : Option Nat :=
  if '0' ≤ c ∧ c ≤ '9' then some (c.toNat - '0'.toNat)
  else if 'a' ≤ c ∧ c ≤ 'f' then some (c.toNat - 'a'.toNat + 10)
  else if 'A' ≤ c ∧ c ≤ 'F' then some (c.toNat - 'A'.toNat + 10)
  else none

/-- Four hexadecimal digits behind which the text goes on. -/
def unit? : List Char → Option (Nat × List Char)
  | a :: b :: c :: d :: next :: rest =>
    match hexDigit? a, hexDigit? b, hexDigit? c, hexDigit? d with
    | some a, some b, some c, some d =>
      some (((a * 16 + b) * 16 + c) * 16 + d, next :: rest)
    | _, _, _, _ => none
  | _ => none

theorem length_of_unit? {cs rest : List Char} {n : Nat} (h : unit? cs = some (n, rest)) :
    rest.length < cs.length := by
  unfold unit? at h
  split at h
  · split at h
    · simp only [Option.some.injEq, Prod.mk.injEq] at h
      rw [← h.2]
      simp
    · simp at h
  · simp at h

/-- The character of a code unit; half of a pair that stands alone is none. -/
def unitChar (n : Nat) : Except Fault Char :=
  if n.isValidChar then .ok (Char.ofNat n) else .error .unpaired

/-- The character that a backslash and a letter stand for. -/
def escapeChar? : Char → Option Char
  | '"' => some '"'
  | '\\' => some '\\'
  | '/' => some '/'
  | 'b' => some '\x08'
  | 'f' => some '\x0c'
  | 'n' => some '\n'
  | 'r' => some '\r'
  | 't' => some '\t'
  | _ => none

/-- The character that the digits behind a backslash and `u` stand for. The first half of a pair
    takes the second half along, if that comes next. Wrong digits show at the `u` before them. -/
def unicodeEscape (digits : List Char) :
    Except Fault (Char × { rest : List Char // rest.length < digits.length }) :=
  match h : unit? digits with
  | none => fault .unicodeEscape ('u' :: digits)
  | some (high, more) =>
    have hm := length_of_unit? h
    let single := (unitChar high).map fun c => (c, ⟨more, hm⟩)
    if 0xD800 ≤ high ∧ high < 0xDC00 then
      match more, hm with
      | '\\' :: 'u' :: digits₂, hm =>
        match h₂ : unit? digits₂ with
        | none => fault .unicodeEscape ('u' :: digits₂)
        | some (low, more₂) =>
          have := length_of_unit? h₂
          if 0xDC00 ≤ low ∧ low < 0xE000 then
            .ok (Char.ofNat (0x10000 + (high - 0xD800) * 0x400 + (low - 0xDC00)),
              ⟨more₂, by simp at hm; omega⟩)
          else single
      | _, _ => single
    else single

/-- Reads a string from behind its quotation mark; `start` is the text at that mark and `acc`
    holds what was read, last first. -/
def stringFrom (start : List Char) (acc : List Char) : List Char → Reading String
  | [] => fault .unterminatedString start
  | '"' :: rest => .ok (String.ofList acc.reverse, rest)
  | '\\' :: rest =>
    match rest with
    | [] => fault .unterminatedString start
    | 'u' :: digits =>
      match unicodeEscape digits with
      | .error e => .error e
      | .ok (c, ⟨more, _⟩) => stringFrom start (c :: acc) more
    | c :: more =>
      match escapeChar? c with
      | some c' => stringFrom start (c' :: acc) more
      | none => fault .escape ('\\' :: rest)
  | c :: rest =>
    if c.toNat ≤ 0x1F then fault .controlCharacter (c :: rest)
    else stringFrom start (c :: acc) rest
termination_by cs => cs.length
decreasing_by all_goals (simp_all; try omega)

/-! ### Values -/

/-- The rest of a text that begins with the given word. -/
def afterWord? (word : String) (cs : List Char) : Option (List Char) :=
  if word.toList.isPrefixOf cs then some (cs.drop word.length) else none

mutual

/-- Reads a value whose first character comes next. -/
def value (room : Nat) : Nat → List Char → Reading Json
  | 0, cs => fault .expectedValue cs
  | n + 1, cs =>
    match cs with
    | [] => fault .expectedValue cs
    | '"' :: rest => (stringFrom cs [] rest).map fun (s, left) => (.str s, left)
    | '{' :: rest =>
      if room = 0 then .error .tooDeep
      else
        match skipSpace rest with
        | '}' :: left => .ok (.obj [], left)
        | next => members (room - 1) n [] next
    | '[' :: rest =>
      if room = 0 then .error .tooDeep
      else
        match skipSpace rest with
        | ']' :: left => .ok (.arr [], left)
        | next => items (room - 1) n [] next
    | c :: _ =>
      if c = 'n' then constant "null" .null cs
      else if c = 't' then constant "true" (.bool true) cs
      else if c = 'f' then constant "false" (.bool false) cs
      else if c = 'N' then constant "NaN" (.float .notANumber) cs
      else if c = 'I' then constant "Infinity" (.float (.infinite false)) cs
      else
        match afterWord? "-Infinity" cs with
        | some left => .ok (.float (.infinite true), left)
        | none => number cs

/-- Reads the members of an object from a name on; `acc` holds those before, last first. -/
def members (room : Nat) : Nat → List (String × Json) → List Char → Reading Json
  | 0, _, cs => fault .expectedName cs
  | n + 1, acc, cs =>
    match cs with
    | '"' :: rest =>
      match stringFrom cs [] rest with
      | .error e => .error e
      | .ok (name, left) =>
        match skipSpace left with
        | ':' :: left₁ =>
          match value room n (skipSpace left₁) with
          | .error e => .error e
          | .ok (v, left₂) =>
            match skipSpace left₂ with
            | '}' :: left₃ => .ok (objOfMembers ((name, v) :: acc).reverse, left₃)
            | ',' :: left₃ => members room n ((name, v) :: acc) (skipSpace left₃)
            | left₃ => fault .expectedComma left₃
        | left₁ => fault .expectedColon left₁
    | _ => fault .expectedName cs

/-- Reads the items of a list from a value on; `acc` holds those before, last first. -/
def items (room : Nat) : Nat → List Json → List Char → Reading Json
  | 0, _, cs => fault .expectedValue cs
  | n + 1, acc, cs =>
    match value room n cs with
    | .error e => .error e
    | .ok (v, left) =>
      match skipSpace left with
      | ']' :: left₁ => .ok (.arr (v :: acc).reverse, left₁)
      | ',' :: left₁ => items room n (v :: acc) (skipSpace left₁)
      | left₁ => fault .expectedComma left₁

def constant (word : String) (v : Json) (cs : List Char) : Reading Json :=
  match afterWord? word cs with
  | some left => .ok (v, left)
  | none => fault .expectedValue cs

end

/-- Reads a text that holds one value and nothing else. -/
def parseChars (room : Nat) (cs : List Char) : Except Fault Json :=
  if cs.head? = some '\uFEFF' then fault .byteOrderMark cs
  else
    match value room (2 * cs.length + 2) (skipSpace cs) with
    | .error e => .error e
    | .ok (v, left) =>
      match skipSpace left with
      | [] => .ok v
      | extra => fault .extraData extra

/-! ### Messages -/

/-- Why a text could not be read, with places instead of remaining text. -/
inductive ReadError where
  | problem (p : Problem) (place : Place)
  | tooManyDigits
  | tooDeep
  | unpaired
  deriving DecidableEq, Repr

/-- The place of a fault in the text that was read. -/
def Fault.locate (text : List Char) : Fault → ReadError
  | .problem p left => .problem p (placeAfter (text.take (text.length - left.length)))
  | .tooManyDigits => .tooManyDigits
  | .tooDeep => .tooDeep
  | .unpaired => .unpaired

/-- Reads a text that holds one value and nothing else, with at most `room` lists and objects
    inside each other. -/
def parse (room : Nat) (text : String) : Except ReadError Json :=
  (parseChars room text.toList).mapError (Fault.locate text.toList)

end BundleGraph.Json
