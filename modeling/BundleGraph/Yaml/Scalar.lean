import BundleGraph.Yaml.Cursor

/-! # Scalars

    The four ways in which a YAML text writes a piece of text: plain, in single
    or double quotes, and as a block. Each reader starts at the first character
    and returns the text with the place behind it.
-/

namespace BundleGraph.Yaml

/-! ### Quoted -/

def escapes : List (Char × Nat) :=
  [('0', 0), ('a', 7), ('b', 8), ('t', 9), ('\t', 9), ('n', 10), ('v', 11), ('f', 12), ('r', 13),
    ('e', 0x1B), (' ', 0x20), ('"', 0x22), ('\\', 0x5C), ('/', 0x2F), ('N', 0x85), ('_', 0xA0),
    ('L', 0x2028), ('P', 0x2029)]

/-- Escapes that are followed by the number of a character, with its count of digits. -/
def codeEscapes : List (Char × Nat) := [('x', 2), ('u', 4), ('U', 8)]

def hexValue (c : Char) : Nat :=
  if c.isDigit then c.toNat - 48 else if c.isLower then c.toNat - 87 else c.toNat - 55

def isHex (c : Char) : Bool :=
  c.isDigit || ('a' ≤ c && c ≤ 'f') || ('A' ≤ c && c ≤ 'F')

/-- Ends of lines that follow each other, with blanks between them; at most `n` of them. -/
def quotedBreaksFor : Nat → Cursor → Except Fault (List Char × Cursor)
  | 0, c => .ok ([], c)
  | n + 1, c =>
    if c.atDocumentMark then .error .malformed
    else
      let c := c.skip fun ch => ch == ' ' || ch == '\t'
      if isBreak c.here then do
        let (b, c) := c.lineBreak
        let (bs, c) ← quotedBreaksFor n c
        return (b ++ bs, c)
      else .ok ([], c)

def quotedBreaks (c : Cursor) : Except Fault (List Char × Cursor) :=
  quotedBreaksFor (c.rest.length + 1) c

/-- White space in a quoted scalar: a single end of line reads as a space. -/
def quotedSpaces (c : Cursor) : Except Fault (List Char × Cursor) :=
  let (blanks, c) := c.takeWhile fun ch => ch == ' ' || ch == '\t'
  if c.here == nul then .error .malformed
  else if isBreak c.here then do
    let (b, c) := c.lineBreak
    let (bs, c) ← quotedBreaks c
    return ((if b != ['\n'] then b else if bs.isEmpty then [' '] else []) ++ bs, c)
  else .ok (blanks, c)

/-- An escape in double quotes, behind its backslash. -/
def escaped (c : Cursor) : Except Fault (List Char × Cursor) :=
  match escapes.lookup c.here with
  | some n => .ok ([Char.ofNat n], c.next)
  | none =>
    match codeEscapes.lookup c.here with
    | some count =>
      let c := c.next
      let digits := c.rest.take count
      if digits.length == count && digits.all isHex then
        let code := digits.foldl (fun n d => n * 16 + hexValue d) 0
        if 0x10FFFF < code then .error .noNumber
        else if ¬ code.isValidChar then .error .unpaired
        else .ok ([Char.ofNat code], c.forward count)
      else .error .malformed
    | none => if isBreak c.here then quotedBreaks c.lineBreak.2 else .error .malformed

/-- The rest of a quoted scalar, in at most `n` pieces, and the place behind it. -/
def quotedFor (double : Bool) (acc : List Char) : Nat → Cursor → Except Fault (List Char × Cursor)
  | 0, _ => .error .malformed
  | n + 1, c =>
    let add (r : List Char × Cursor) := quotedFor double (r.1.reverse ++ acc) n r.2
    let ch := c.here
    if ch == ' ' || ch == '\t' || endsLine ch then do add (← quotedSpaces c)
    else if !double && ch == '\'' && c.peek 1 == '\'' then add (['\''], c.forward 2)
    else if ch == (if double then '"' else '\'') then .ok (acc.reverse, c.next)
    else if double && ch == '\\' then do add (← escaped c.next)
    else add ([ch], c.next)

def quotedScalar (double : Bool) (c : Cursor) : Except Fault (List Char × Cursor) :=
  quotedFor double [] (c.rest.length + 1) c.next

/-! ### Plain -/

/-- Characters that end a plain scalar inside brackets. -/
def isFlowMark (c : Char) : Bool := c == ',' || c == '[' || c == ']' || c == '\x7b' || c == '\x7d'

/-- Characters of a plain scalar up to the next white space. -/
def plainRun (flow : Bool) : List Char → List Char
  | [] => []
  | c :: rest =>
    let next := rest.headD nul
    if isBlankOrEnd c || (c == ':' && (isBlankOrEnd next || (flow && isFlowMark next))) ||
      (flow && (isFlowMark c || c == '?')) then []
    else c :: plainRun flow rest

/-- Ends of lines and spaces that follow each other; nothing is returned where a document ends. -/
def plainBreaksFor : Nat → Cursor → Option (List Char) × Cursor
  | 0, c => (some [], c)
  | n + 1, c =>
    if c.here == ' ' then plainBreaksFor n c.next
    else if isBreak c.here then
      let (b, c) := c.lineBreak
      if c.atDocumentMark then (none, c)
      else
        let (bs, c) := plainBreaksFor n c
        (bs.map (b ++ ·), c)
    else (some [], c)

/-- White space in a plain scalar; the last part says whether a line ended in it. -/
def plainSpaces (c : Cursor) : List Char × Cursor × Bool :=
  let (blanks, c) := c.takeWhile (· == ' ')
  if isBreak c.here then
    let (b, c) := c.lineBreak
    if c.atDocumentMark then ([], c, true)
    else
      match plainBreaksFor (c.rest.length + 1) c with
      | (some bs, c) =>
        ((if b != ['\n'] then b else if bs.isEmpty then [' '] else []) ++ bs, c, true)
      | (none, c) => ([], c, true)
  else (blanks, c, false)

/-- A plain scalar read so far. -/
structure Plain where
  text : List Char
  stop : Cursor
  /-- Whether a line ended behind the text. -/
  lineEnded : Bool

/-- The rest of a plain scalar, in at most `n` runs; `spaces` stand before it. -/
def plainFor (flow : Bool) (indent : Int) (text spaces : List Char) (lineEnded : Bool) :
    Nat → Cursor → Plain
  | 0, c => ⟨text, c, lineEnded⟩
  | n + 1, c =>
    let run := if c.here == '#' then [] else plainRun flow c.rest
    if run.isEmpty then ⟨text, c, lineEnded⟩
    else
      let text := text ++ spaces ++ run
      let (spaces, c, lineEnded) := plainSpaces (c.forward run.length)
      if spaces.isEmpty || c.here == '#' || (!flow && (c.column : Int) < indent) then
        ⟨text, c, lineEnded⟩
      else plainFor flow indent text spaces lineEnded n c

/-- A plain scalar; `indent` is the column that its lines must reach. -/
def plainScalar (flow : Bool) (indent : Int) (c : Cursor) : Plain :=
  plainFor flow indent [] [] false (c.rest.length + 1) c

/-! ### Blocks -/

/-- What becomes of the last ends of line of a block. -/
inductive Chomping where
  /-- One stays. -/
  | clip
  /-- None stays. -/
  | strip
  /-- All stay. -/
  | keep
  deriving DecidableEq, Repr

def chomping? (c : Char) : Option Chomping :=
  if c == '+' then some .keep else if c == '-' then some .strip else none

/-- The head of a block: its chomping and its explicit indentation. -/
def blockHead (c : Cursor) : Except Fault (Chomping × Option Nat × Cursor) := do
  let (first, c) := match chomping? c.here with
    | some ch => (some ch, c.next)
    | none => (none, c)
  let (increment, c) ←
    if c.here.isDigit then
      if c.here == '0' then throw Fault.malformed
      else pure (some (c.here.toNat - 48), c.next)
    else pure (none, c)
  let (second, c) := match if first.isNone && increment.isSome then chomping? c.here else none with
    | some ch => (some ch, c.next)
    | none => (first, c)
  if isSpaceOrEnd c.here then return (second.getD .clip, increment, c) else throw .malformed

/-- The rest of a line on which nothing but a comment may stand. -/
def restOfLine (c : Cursor) : Except Fault Cursor :=
  let c := c.skip (· == ' ')
  let c := if c.here == '#' then c.skip fun ch => !endsLine ch else c
  if endsLine c.here then .ok c.lineBreak.2 else .error .malformed

def spacesTo (column : Nat) (c : Cursor) : Cursor :=
  c.forward ((c.rest.take (column - c.column)).takeWhile (· == ' ')).length

/-- Ends of lines before the next line that reaches a column. -/
def blockBreaksFor (column : Nat) : Nat → Cursor → List Char × Cursor
  | 0, c => ([], c)
  | n + 1, c =>
    let c := spacesTo column c
    if isBreak c.here then
      let (b, c) := c.lineBreak
      let (bs, c) := blockBreaksFor column n c
      (b ++ bs, c)
    else ([], c)

/-- Ends of lines before the next line that reaches a column. -/
def blockBreaks (column : Nat) (c : Cursor) : List Char × Cursor :=
  blockBreaksFor column (c.rest.length + 1) c

/-- Ends of lines before the first line of a block, and the greatest column that spaces reach. -/
def blockStartFor (column : Nat) : Nat → Cursor → List Char × Nat × Cursor
  | 0, c => ([], column, c)
  | n + 1, c =>
    if c.here == ' ' then blockStartFor (max column c.next.column) n c.next
    else if isBreak c.here then
      let (b, c) := c.lineBreak
      let (bs, column, c) := blockStartFor column n c
      (b ++ bs, column, c)
    else ([], column, c)

/-- A block read so far: its text, the last end of line, and the ends of line behind that. -/
structure Block where
  text : List Char
  last : List Char
  breaks : List Char
  stop : Cursor

/-- The rest of a block, at most `n` lines. -/
def blockFor (folded : Bool) (column : Nat) (b : Block) : Nat → Block
  | 0 => b
  | n + 1 =>
    let c := b.stop
    if c.column == column && c.here != nul then
      let leading := c.here != ' ' && c.here != '\t'
      let (line, c) := c.takeWhile fun ch => !endsLine ch
      let (last, c) := c.lineBreak
      let (breaks, c) := blockBreaks column c
      let text := b.text ++ b.breaks ++ line
      if c.column == column && c.here != nul then
        let joint :=
          if folded && last == ['\n'] && leading && c.here != ' ' && c.here != '\t' then
            if breaks.isEmpty then [' '] else []
          else last
        blockFor folded column ⟨text ++ joint, last, breaks, c⟩ n
      else ⟨text, last, breaks, c⟩
    else b

/-- A block scalar; `indent` is the column of the block around it. -/
def blockScalar (folded : Bool) (indent : Int) (c : Cursor) :
    Except Fault (List Char × Cursor) := do
  let (chomping, increment, c) ← blockHead c.next
  let c ← restOfLine c
  let least := max (indent + 1) 1
  let (breaks, column, c) :=
    match increment with
    | some k =>
      let column := (least + k - 1).toNat
      let (breaks, c) := blockBreaks column c
      (breaks, column, c)
    | none =>
      let (breaks, column, c) := blockStartFor 0 (c.rest.length + 1) c
      (breaks, max least.toNat column, c)
  let b := blockFor folded column ⟨[], [], breaks, c⟩ (c.rest.length + 1)
  let ending := match chomping with
    | .clip => b.last
    | .strip => []
    | .keep => b.last ++ b.breaks
  return (b.text ++ ending, b.stop)

end BundleGraph.Yaml
