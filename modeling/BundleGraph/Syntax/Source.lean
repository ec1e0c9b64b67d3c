import BundleGraph.Files.Path
import BundleGraph.Syntax.Tree

/-! # Sources and their words

    A source is an array of characters with the dialect it is read in. The
    functions of this module say where a word ends that begins at a place:
    names, numbers, strings, regular expressions, operators, and the gap before
    a word, which is white space and comments.

    Places are indices into the source. A word that is not there ends at `none`.

    There are three dialects. The extension of a file says which; sources without
    a known extension are read in the widest one.
-/

namespace BundleGraph.Syntax

/-! ### Dialects -/

inductive Dialect where
  /-- Without types; markup is allowed. -/
  | javascript
  /-- With types and type assertions in angle brackets, without markup. -/
  | typescript
  /-- With types and markup. -/
  | tsx
  deriving DecidableEq, Repr

namespace Dialect

def name : Dialect → String
  | javascript => "javascript"
  | typescript => "typescript"
  | tsx => "tsx"

def hasTypes (d : Dialect) : Bool := d ≠ .javascript

def hasMarkup (d : Dialect) : Bool := d ≠ .typescript

def javascriptExtensions : List String := [".js", ".jsx", ".mjs", ".cjs"]

def typescriptExtensions : List String := [".ts", ".mts", ".cts"]

/-- The dialect of a file by its extension, in either case of letters. -/
def ofPath : Option Files.Path → Dialect
  | none => tsx
  | some p =>
    let ext := Text.asciiLower p.extension
    if ext ∈ javascriptExtensions then javascript
    else if ext ∈ typescriptExtensions then typescript
    else tsx

end Dialect

/-! ### Sources -/

structure Source where
  chars : Array Char
  dialect : Dialect

/-! ### Classes of characters -/

def backquote : Char := Char.ofNat 0x60

/-- White space between words. -/
def isGapChar (c : Char) : Bool :=
  let n := c.toNat
  (9 ≤ n && n ≤ 13) || n == 0x20 || n == 0xA0 || n == 0x1680 || (0x2000 ≤ n && n ≤ 0x200B) ||
    n == 0x2028 || n == 0x2029 || n == 0x202F || n == 0x205F || n == 0x2060 || n == 0x3000 ||
    n == 0xFEFF

def isLineEnd (c : Char) : Bool := c == '\n' || c.toNat == 0x2028 || c.toNat == 0x2029

/-- Characters inside a name: all but controls, white space and the punctuation of ASCII. -/
def isNameChar (c : Char) : Bool :=
  c.isAlphanum || c == '_' || c == '$' || (c.toNat ≥ 0x7F && !isGapChar c)

def isNameStart (c : Char) : Bool := isNameChar c && !c.isDigit

/-- Digits of the widest base, and the separator between digits. -/
def isNumberChar (c : Char) : Bool := c.isAlphanum || c == '_'

namespace Source

def at? (s : Source) (i : Nat) : Option Char := s.chars[i]?

/-- Whether the character at a place satisfies `p`. -/
def test (s : Source) (i : Nat) (p : Char → Bool) : Bool := (s.at? i).any p

def slice (s : Source) (i j : Nat) : String := String.ofList (s.chars.extract i j).toList

/-- Whether the characters stand at a place. -/
def startsWith (s : Source) (i : Nat) : List Char → Bool
  | [] => true
  | c :: cs => s.at? i == some c && s.startsWith (i + 1) cs

/-- The first place from `i` on, at most `n` characters on, where `p` fails. -/
def skipFor (s : Source) (p : Char → Bool) : Nat → Nat → Nat
  | 0, i => i
  | n + 1, i => if s.test i p then s.skipFor p n (i + 1) else i

/-- The first place from `i` on where `p` fails. -/
def skip (s : Source) (p : Char → Bool) (i : Nat) : Nat := s.skipFor p (s.chars.size - i) i

/-! ### Names and numbers -/

/-- The end of an escaped character that begins at a backslash. -/
def escapedCharEnd? (s : Source) (i : Nat) : Option Nat :=
  if s.startsWith i ['\\', 'u', '{'] then
    let j := s.skip Char.isAlphanum (i + 3)
    if s.at? j == some '}' then some (j + 1) else none
  else if s.startsWith i ['\\', 'u'] then
    let j := s.skipFor Char.isAlphanum 4 (i + 2)
    if j == i + 6 then some j else none
  else none

/-- The end of the rest of a name. -/
def nameTailFor (s : Source) : Nat → Nat → Nat
  | 0, i => i
  | n + 1, i =>
    if s.test i isNameChar then s.nameTailFor n (i + 1)
    else
      match s.escapedCharEnd? i with
      | some j => s.nameTailFor n j
      | none => i

def nameEnd? (s : Source) (i : Nat) : Option Nat :=
  if s.test i isNameStart || (s.escapedCharEnd? i).isSome then
    some (s.nameTailFor (s.chars.size - i) i)
  else none

/-- The end of the digits after an `e`. -/
def exponentEnd (s : Source) (i : Nat) : Nat :=
  if s.test i (fun c => c == 'e' || c == 'E') then
    let j := if s.test (i + 1) (fun c => c == '+' || c == '-') then i + 2 else i + 1
    if s.test j Char.isDigit then s.skip (fun c => c.isDigit || c == '_') j else i
  else i

def numberEnd? (s : Source) (i : Nat) : Option Nat :=
  let digits := s.skip fun c => c.isDigit || c == '_'
  if s.at? i == some '0' && s.test (i + 1) (fun c => "xXoObB".toList.contains c) then
    some (s.skip isNumberChar (i + 2))
  else if s.test i Char.isDigit then
    let j := digits i
    let j := if s.at? j == some '.' then digits (j + 1) else j
    let j := s.exponentEnd j
    some (if s.at? j == some 'n' then j + 1 else j)
  else if s.at? i == some '.' && s.test (i + 1) Char.isDigit then
    some (s.exponentEnd (digits (i + 1)))
  else none

/-! ### Strings and regular expressions -/

/-- The end of a string whose inside goes on at `i`, with the quotation mark `q`. -/
def stringTailFor (s : Source) (q : Char) : Nat → Nat → Option Nat
  | 0, _ => none
  | n + 1, i =>
    match s.at? i with
    | none => none
    | some c =>
      if c == q then some (i + 1)
      else if c == '\\' then
        s.stringTailFor q n (if s.startsWith i ['\\', '\r', '\n'] then i + 3 else i + 2)
      else if c == '\n' || c == '\r' then none
      else s.stringTailFor q n (i + 1)

def stringEnd? (s : Source) (i : Nat) : Option Nat :=
  match s.at? i with
  | some c => if c == '"' || c == '\'' then s.stringTailFor c (s.chars.size - i) (i + 1) else none
  | none => none

/-- The end of a string in markup: there is nothing but its quotation mark to end it. -/
def markupStringEnd? (s : Source) (i : Nat) : Option Nat :=
  match s.at? i with
  | some q =>
    if q == '"' || q == '\'' then
      let j := s.skip (· != q) (i + 1)
      if s.at? j == some q then some (j + 1) else none
    else none
  | none => none

/-- The end of a regular expression whose inside goes on at `i`; `inClass` says whether that is
    between square brackets. -/
def regexTailFor (s : Source) (inClass : Bool) : Nat → Nat → Option Nat
  | 0, _ => none
  | n + 1, i =>
    match s.at? i with
    | none => none
    | some c =>
      if isLineEnd c || c == '\r' then none
      else if c == '\\' then
        if s.test (i + 1) (fun d => !isLineEnd d) then s.regexTailFor inClass n (i + 2) else none
      else if c == '[' then s.regexTailFor true n (i + 1)
      else if c == ']' then s.regexTailFor false n (i + 1)
      else if c == '/' && !inClass then some (s.skip Char.isLower (i + 1))
      else s.regexTailFor inClass n (i + 1)

/-- The end of a regular expression with its flags. -/
def regexEnd? (s : Source) (i : Nat) : Option Nat :=
  if s.at? i == some '/' && s.test (i + 1) (fun c => c != '/' && c != '*') then
    s.regexTailFor false (s.chars.size - i) (i + 1)
  else none

/-! ### Operators -/

/-- Operators and brackets, longer ones first. -/
def operators : List (List Char) :=
  [">>>=", "...", "===", "!==", "**=", "<<=", ">>=", ">>>", "&&=", "||=", "??=", "=>", "==", "!=",
    "<=", ">=", "&&", "||", "??", "?.", "++", "--", "+=", "-=", "*=", "/=", "%=", "&=", "|=", "^=",
    "<<", ">>", "**", "\x7b", "\x7d", "(", ")", "[", "]", ".", ";", ",", "<", ">", "+", "-", "*",
    "/", "%", "&", "|", "^", "!", "~", "?", ":", "=", "@", "#"].map String.toList

/-- The longest operator at a place. A question mark and a dot before a digit are two. -/
def operator? (s : Source) (i : Nat) : Option (List Char) :=
  operators.find? fun op =>
    s.startsWith i op && !(op == ['?', '.'] && s.test (i + 2) Char.isDigit)

/-- The end of an operator, where it is the longest one that stands there. -/
def operatorEnd? (s : Source) (op : List Char) (i : Nat) : Option Nat :=
  if s.startsWith i op && s.operator? i == some op then some (i + op.length) else none

/-! ### Comments and gaps -/

/-- The end of a block comment whose inside goes on at `i`. -/
def blockCommentTailFor (s : Source) : Nat → Nat → Option Nat
  | 0, _ => none
  | n + 1, i =>
    if s.startsWith i ['*', '/'] then some (i + 2) else s.blockCommentTailFor n (i + 1)

/-- The end of the line that goes on at `i`. -/
def lineEnd (s : Source) (i : Nat) : Nat := s.skip (fun c => !isLineEnd c && c != '\r') i

def commentEnd? (s : Source) (i : Nat) : Option Nat :=
  if s.startsWith i ['/', '/'] then some (s.lineEnd i)
  else if s.startsWith i ['/', '*'] then s.blockCommentTailFor (s.chars.size - i) (i + 2)
  else none

/-- The end of a comment that begins like one of a document. -/
def htmlCommentEnd? (s : Source) (i : Nat) : Option Nat :=
  if s.startsWith i "<!--".toList || s.startsWith i "-->".toList then some (s.lineEnd i) else none

/-- What stands before a word. -/
structure Gap where
  /-- The comments, each with the white space before it. -/
  comments : List Node
  /-- The white space after them. -/
  blank : String
  /-- Where the word begins. -/
  stop : Nat

/-- The gap that begins at `i` and holds at most `n` comments more than `comments`, which are
    listed last first. -/
def gapFor (s : Source) (comments : List Node) : Nat → Nat → Gap
  | 0, i => ⟨comments.reverse, "", i⟩
  | n + 1, i =>
    let j := s.skip isGapChar i
    match s.commentEnd? j with
    | some k => s.gapFor (.leaf none .comment (s.slice i j) (s.slice j k) :: comments) n k
    | none => ⟨comments.reverse, s.slice i j, j⟩

def gap (s : Source) (i : Nat) : Gap := s.gapFor [] (s.chars.size + 1 - i) i

/-- Whether a line ends between two places. -/
def endsLine (s : Source) (i j : Nat) : Bool := s.skip (fun c => !isLineEnd c) i < j

end Source

end BundleGraph.Syntax
