import BundleGraph.Pattern.Match
import BundleGraph.Text.Search

/-! # Reading patterns

    The text of a pattern is a list of marks: characters, and characters that a
    backslash stands before. A reader keeps the groups that are open, innermost
    first; each mark that opens a group, closes one or is a part of its own takes
    it one step on.

    Settings of the whole pattern can only stand at its start, so when a part is
    read it is known which settings hold for it.

    Characters can be written by their names. Which names there are is no matter
    of patterns, so the readers take a function that knows them.
-/

namespace BundleGraph.Pattern

open Text

/-- Why a text is no pattern. -/
inductive Fault where
  | malformed
  | tooLong
  /-- It asks both for the characters of ASCII and for those of every script. -/
  | contrary
  | tooDeep
  deriving DecidableEq, Repr

/-- A character of a pattern, plain or behind a backslash. -/
inductive Mark where
  | plain (c : Char)
  | escaped (c : Char)
  deriving DecidableEq, Repr

/-- The marks of a text; a backslash cannot stand at the end. -/
def marksOf : List Char → Except Fault (List Mark)
  | [] => .ok []
  | ['\\'] => .error .malformed
  | '\\' :: c :: rest => (marksOf rest).map (.escaped c :: ·)
  | c :: rest => (marksOf rest).map (.plain c :: ·)

/-! ### Settings -/

/-- Settings for the parts of a pattern. -/
structure Settings where
  ignoreCase : Bool
  multiLine : Bool
  dotAll : Bool
  verbose : Bool
  ascii : Bool
  deriving DecidableEq, Repr

namespace Settings

def standard : Settings := ⟨false, false, false, false, false⟩

def rule (s : Settings) : CaseRule :=
  if s.ignoreCase then (if s.ascii then .ascii else .full) else .exact

def letters : List Char := ['i', 'L', 'm', 's', 'x', 'a', 't', 'u']

def set (s : Settings) (value : Bool) (letter : Char) : Settings :=
  match letter with
  | 'i' => { s with ignoreCase := value }
  | 'm' => { s with multiLine := value }
  | 's' => { s with dotAll := value }
  | 'x' => { s with verbose := value }
  | 'a' => { s with ascii := value }
  | 'u' => { s with ascii := !value }
  | _ => s

end Settings

/-- Letters of settings up to one of the given ends, with that end. -/
def readLetters (ends : List Char) : List Mark → Except Fault (List Char × Char × List Mark)
  | .plain c :: rest =>
    if ends.contains c then .ok ([], c, rest)
    else if Settings.letters.contains c then
      (readLetters ends rest).map fun (cs, stop, rest) => (c :: cs, stop, rest)
    else .error .malformed
  | _ => .error .malformed

/-! ### Escapes -/

def hexValue? (c : Char) : Option Nat :=
  if '0' ≤ c ∧ c ≤ '9' then some (c.toNat - 48)
  else if 'a' ≤ c ∧ c ≤ 'f' then some (c.toNat - 87)
  else if 'A' ≤ c ∧ c ≤ 'F' then some (c.toNat - 55)
  else none

def readHex : Nat → Nat → List Mark → Except Fault (Nat × List Mark)
  | 0, value, rest => .ok (value, rest)
  | n + 1, value, .plain c :: rest =>
    match hexValue? c with
    | some d => readHex n (16 * value + d) rest
    | none => .error .malformed
  | _, _, _ => .error .malformed

def isOctal (c : Char) : Bool := '0' ≤ c && c ≤ '7'

def digitValue (c : Char) : Nat := c.toNat - '0'.toNat

def readOctal : Nat → Nat → List Mark → Nat × List Mark
  | n + 1, value, .plain c :: rest =>
    if isOctal c then readOctal n (8 * value + digitValue c) rest else (value, .plain c :: rest)
  | _, value, rest => (value, rest)

/-- Code points with an escape of their own. -/
def escapedPoint? : Char → Option Nat
  | 'a' => some 7
  | 'f' => some 12
  | 'n' => some 10
  | 'r' => some 13
  | 't' => some 9
  | 'v' => some 11
  | '\\' => some 92
  | _ => none

def escapedKind? (ascii : Bool) : Char → Option ClassItem
  | 'd' => some (.kind .digit ascii false)
  | 'D' => some (.kind .digit ascii true)
  | 's' => some (.kind .space ascii false)
  | 'S' => some (.kind .space ascii true)
  | 'w' => some (.kind .word ascii false)
  | 'W' => some (.kind .word ascii true)
  | _ => none

def lastPoint : Nat := 0x10FFFF

/-- A code point that is written by its number. -/
def numberedPoint (letter : Char) (rest : List Mark) : Except Fault (Nat × List Mark) := do
  let digits := if letter = 'x' then 2 else if letter = 'u' then 4 else 8
  let (n, rest) ← readHex digits 0 rest
  if lastPoint < n then throw .malformed
  return (n, rest)

def readName (stop : Char) : List Mark → Except Fault (List Char × List Mark)
  | .plain c :: rest =>
    if c = stop then .ok ([], rest)
    else (readName stop rest).map fun (cs, rest) => (c :: cs, rest)
  | _ => .error .malformed

/-- The brackets around counts and names of characters. -/
def openBrace : Char := Char.ofNat 0x7B

def closeBrace : Char := Char.ofNat 0x7D

/-- The code points of the characters that have names. -/
abbrev CharNames := String → Option Nat

/-- A code point that is written by the name of its character. -/
def namedPoint (known : CharNames) : List Mark → Except Fault (Nat × List Mark)
  | .plain c :: rest =>
    if c = openBrace then do
      let (name, rest) ← readName closeBrace rest
      match known (String.ofList name) with
      | some n => return (n, rest)
      | none => throw .malformed
    else .error .malformed
  | _ => .error .malformed

/-- An escape that is the character itself; letters of ASCII are not. -/
def literalPoint (c : Char) : Except Fault Nat :=
  if c.isAlpha then .error .malformed else .ok c.toNat

/-- Letters that introduce the number of a code point. -/
def isNumberLetter (c : Char) : Bool := c == 'x' || c == 'u' || c == 'U'

def classEscape (known : CharNames) (ascii : Bool) (c : Char) (rest : List Mark) :
    Except Fault (ClassItem × List Mark) :=
  match escapedKind? ascii c, escapedPoint? c with
  | some item, _ => .ok (item, rest)
  | none, some n => .ok (.one n, rest)
  | none, none =>
    if c = 'b' then .ok (.one 8, rest)
    else if c = 'N' then (namedPoint known rest).map fun (n, rest) => (.one n, rest)
    else if isNumberLetter c then (numberedPoint c rest).map fun (n, rest) => (.one n, rest)
    else if isOctal c then
      let (n, rest) := readOctal 2 (digitValue c) rest
      if 255 < n then .error .malformed else .ok (.one n, rest)
    else if c.isDigit then .error .malformed
    else (literalPoint c).map fun n => (.one n, rest)

/-! ### Classes -/

/-- One end of a range, or a member of its own. -/
def classMember (known : CharNames) (ascii : Bool) :
    Mark → List Mark → Except Fault (ClassItem × List Mark)
  | .plain c, rest => .ok (.one c.toNat, rest)
  | .escaped c, rest => classEscape known ascii c rest

def rangeOf : ClassItem → ClassItem → Except Fault ClassItem
  | .one a, .one b => if b < a then .error .malformed else .ok (.range a b)
  | _, _ => .error .malformed

/-- Members up to the closing bracket, which is a member where it stands first. -/
def classItems (known : CharNames) (ascii : Bool) : Nat → List ClassItem → List Mark →
    Except Fault (List ClassItem × List Mark)
  | 0, _, _ => .error .malformed
  | _, _, [] => .error .malformed
  | fuel + 1, items, m :: rest =>
    if m = .plain ']' ∧ items ≠ [] then .ok (items, rest)
    else do
      let (a, rest) ← classMember known ascii m rest
      match rest with
      | .plain '-' :: .plain ']' :: rest => return (items ++ [a, .one '-'.toNat], rest)
      | .plain '-' :: m :: rest =>
        let (b, rest) ← classMember known ascii m rest
        classItems known ascii fuel (items ++ [← rangeOf a b]) rest
      | rest => classItems known ascii fuel (items ++ [a]) rest

def readClass (known : CharNames) (s : Settings) (ms : List Mark) :
    Except Fault (CharClass × List Mark) :=
  let (negated, rest) :=
    match ms with
    | .plain '^' :: rest => (true, rest)
    | rest => (false, rest)
  (classItems known s.ascii (rest.length + 1) [] rest).map fun (items, rest) =>
    (⟨negated, items, s.rule⟩, rest)

/-! ### Repetition -/

def readDigits : List Mark → List Char × List Mark
  | .plain c :: rest =>
    if c.isDigit then
      let (cs, rest) := readDigits rest
      (c :: cs, rest)
    else ([], .plain c :: rest)
  | rest => ([], rest)

def numberOf (digits : List Char) : Nat := digits.foldl (fun n c => 10 * n + digitValue c) 0

/-- Repetitions from this number on cannot be counted. -/
def repetitionLimit : Nat := Nat.pow 2 32 - 1

/-- A number of repetitions, if one is written. -/
def countOf? (digits : List Char) : Except Fault (Option Nat) :=
  if digits = [] then .ok none
  else if repetitionLimit ≤ numberOf digits then .error .tooLong
  else .ok (some (numberOf digits))

/-- Counts after their opening bracket; none if the bracket is a character like any other. -/
def readCounts (ms : List Mark) : Except Fault (Option (Nat × Option Nat × List Mark)) :=
  if ms.head? = some (.plain closeBrace) then .ok none
  else
    let (low, rest) := readDigits ms
    let (high, rest) :=
      match rest with
      | .plain ',' :: rest => readDigits rest
      | rest => (low, rest)
    match rest with
    | .plain c :: rest =>
      if c = closeBrace then do
        let least := (← countOf? low).getD 0
        let most ← countOf? high
        if most.any (· < least) then throw .malformed
        return some (least, most, rest)
      else .ok none
    | _ => .ok none

/-! ### Open groups -/

/-- What a closing parenthesis makes of the parts before it. -/
inductive Opening where
  /-- Nothing: this is the whole pattern. -/
  | whole
  | group (number : Nat)
  | scope
  | atomic
  | ahead (holds : Bool)
  /-- A look back; `before` counts the groups that were opened earlier. -/
  | behind (holds : Bool) (before : Nat)
  /-- A choice by whether a group has a text. -/
  | given (number : Nat)
  deriving DecidableEq, Repr

/-- A group that is open. -/
structure Frame where
  opening : Opening
  settings : Settings
  /-- Choices that are complete, the last one first. -/
  choices : List Node
  /-- Parts of the choice that is not, the last one first. -/
  parts : List Node
  deriving DecidableEq, Repr

namespace Frame

/-- A group that was just opened. -/
def opened (o : Opening) (s : Settings) : Frame := ⟨o, s, [], []⟩

def allChoices (f : Frame) : List Node := (Node.ofSeq f.parts.reverse :: f.choices).reverse

end Frame

/-- What was read so far. -/
structure Reader where
  /-- The group that is being read. -/
  inner : Frame
  /-- The open groups around it, innermost first. -/
  outer : List Frame
  groupCount : Nat
  names : List (String × Nat)
  /-- Lengths of the groups that were closed. -/
  widths : List (Nat × Width)
  /-- Groups that choices ask for by number. -/
  asked : List Nat
  /-- Letters of settings of the whole pattern. -/
  letters : List Char
  /-- Whether a look back has parts of several lengths. -/
  looseLook : Bool
  repeats : Bool
  deriving DecidableEq, Repr

namespace Reader

def start : Reader where
  inner := .opened .whole .standard
  outer := []
  groupCount := 0
  names := []
  widths := []
  asked := []
  letters := []
  looseLook := false
  repeats := false

def settings (r : Reader) : Settings := r.inner.settings

def add (r : Reader) (n : Node) : Reader :=
  { r with inner := { r.inner with parts := n :: r.inner.parts } }

def addPoint (r : Reader) (n : Nat) : Reader := r.add (.char (.single r.settings.rule n))

def enter (r : Reader) (o : Opening) (s : Settings) : Reader :=
  { r with inner := .opened o s, outer := r.inner :: r.outer }

def enterGroup (r : Reader) : Reader :=
  { r with groupCount := r.groupCount + 1 }.enter (.group (r.groupCount + 1)) r.settings

def groupWidth (r : Reader) (n : Nat) : Width :=
  match r.widths.find? fun w => w.1 = n with
  | some w => w.2
  | none => .always 0

def isClosed (r : Reader) (n : Nat) : Bool := r.widths.any fun w => w.1 = n

/-- Groups opened before the outermost look back that is still open. -/
def groupsBeforeLook? (r : Reader) : Option Nat :=
  ((r.inner :: r.outer).reverse.findSome? fun f =>
    match f.opening with
    | .behind _ before => some before
    | _ => none)

/-- Whether a group can be referred to from within the look back that is open, if one is. -/
def isKnownToLook (r : Reader) (n : Nat) : Bool :=
  match r.groupsBeforeLook? with
  | some before => r.isClosed n && n ≤ before
  | none => true

def addSame (r : Reader) (n : Nat) : Except Fault Reader :=
  if r.isClosed n && r.isKnownToLook n then .ok (r.add (.same n r.settings.rule))
  else .error .malformed

/-- Whether the settings of the whole pattern contradict each other. -/
def isContrary (r : Reader) : Bool := r.letters.contains 'a' && r.letters.contains 'u'

/-! #### Single steps -/

/-- An escape outside classes. -/
def escape (known : CharNames) (r : Reader) (c : Char) (rest : List Mark) :
    Except Fault (Reader × List Mark) :=
  let ascii := r.settings.ascii
  match escapedKind? ascii c, escapedPoint? c with
  | some item, _ => .ok (r.add (.char ⟨false, [item], r.settings.rule⟩), rest)
  | none, some n => .ok (r.addPoint n, rest)
  | none, none =>
    if c = 'A' then .ok (r.add (.anchor .textStart), rest)
    else if c = 'Z' then .ok (r.add (.anchor .textEnd), rest)
    else if c = 'b' then .ok (r.add (.anchor (.boundary ascii true)), rest)
    else if c = 'B' then .ok (r.add (.anchor (.boundary ascii false)), rest)
    else if c = 'N' then (namedPoint known rest).map fun (n, rest) => (r.addPoint n, rest)
    else if isNumberLetter c then
      (numberedPoint c rest).map fun (n, rest) => (r.addPoint n, rest)
    else if c = '0' then
      let (n, rest) := readOctal 2 0 rest
      .ok (r.addPoint n, rest)
    else if c.isDigit then
      match rest with
      | .plain d :: rest =>
        if d.isDigit then
          match rest with
          | .plain e :: rest =>
            if isOctal c && isOctal d && isOctal e then
              let n := 64 * digitValue c + 8 * digitValue d + digitValue e
              if 255 < n then .error .malformed else .ok (r.addPoint n, rest)
            else (r.addSame (numberOf [c, d])).map fun r => (r, .plain e :: rest)
          | rest => (r.addSame (numberOf [c, d])).map fun r => (r, rest)
        else (r.addSame (digitValue c)).map fun r => (r, .plain d :: rest)
      | rest => (r.addSame (digitValue c)).map fun r => (r, rest)
    else (literalPoint c).map fun n => (r.addPoint n, rest)

/-- Repeats the last part. -/
def quantify (r : Reader) (least : Nat) (most : Option Nat) (rest : List Mark) :
    Except Fault (Reader × List Mark) :=
  match r.inner.parts with
  | [] => .error .malformed
  | body :: parts =>
    if !body.isRepeatable then .error .malformed
    else
      let (greed, rest) :=
        match rest with
        | .plain '?' :: rest => (Greed.lazy, rest)
        | .plain '+' :: rest => (Greed.possessive, rest)
        | rest => (Greed.greedy, rest)
      .ok ({ r with inner := { r.inner with parts := .repeated greed least most body :: parts }
                    repeats := true }, rest)

/-- Begins the next choice; a choice by a group has two. -/
def nextChoice (r : Reader) : Except Fault Reader :=
  match r.inner.opening, r.inner.choices with
  | .given _, _ :: _ => .error .malformed
  | _, choices =>
    .ok { r with inner := { r.inner with
      choices := .ofSeq r.inner.parts.reverse :: choices, parts := [] } }

/-- What the innermost group amounts to, with the reader that knows of it. -/
def closed (r : Reader) : Node × Reader :=
  let choices := r.inner.allChoices
  let body := Node.ofChoices choices
  match r.inner.opening with
  | .whole => (body, r)
  | .scope => (.scope body, r)
  | .atomic => (.atomic body, r)
  | .group n => (.group n body, { r with widths := (n, body.width r.groupWidth) :: r.widths })
  | .ahead holds => (.look none holds body, r)
  | .behind holds _ =>
    match (body.width r.groupWidth).back? with
    | some n => (.look (some n) holds body, r)
    | none => (.empty, { r with looseLook := true })
  | .given n => (.given n (choices.headD .empty) (.ofChoices choices.tail), r)

def leave (r : Reader) : Except Fault Reader :=
  match r.outer with
  | [] => .error (if r.isContrary then .contrary else .malformed)
  | around :: outer =>
    let (n, r) := r.closed
    .ok ({ r with inner := around, outer := outer }.add n)

/-! #### Parentheses -/

/-- Whether characters are an identifier. -/
def isName : List Char → Bool
  | [] => false
  | c :: cs => beginsName c && cs.all continuesName

def named? (r : Reader) (name : List Char) : Option Nat :=
  (r.names.find? fun n => n.1 = String.ofList name).map (·.2)

def enterNamed (r : Reader) (name : List Char) : Except Fault Reader :=
  if isName name && (r.named? name).isNone then
    .ok { r with names := (String.ofList name, r.groupCount + 1) :: r.names }.enterGroup
  else .error .malformed

/-- Opens a choice by a group. -/
def enterGiven (r : Reader) (name : List Char) : Except Fault Reader := do
  let (n, r) ←
    if isName name then
      match r.named? name with
      | some n => pure (n, r)
      | none => throw .malformed
    else
      let n := numberOf name
      if name.all Char.isDigit && n != 0 then pure (n, { r with asked := n :: r.asked })
      else throw .malformed
  if r.isKnownToLook n then return r.enter (.given n) r.settings else throw .malformed

/-- Settings for the whole pattern. -/
def setWhole (r : Reader) (letters : List Char) : Except Fault Reader :=
  if r.inner.opening = .whole ∧ r.inner.choices = [] ∧ r.inner.parts = [] then
    .ok { r with
      inner := { r.inner with settings := letters.foldl (·.set true ·) r.settings }
      letters := r.letters ++ letters }
  else .error .malformed

/-- Settings, for the whole pattern or for a group that they open. -/
def readSettings (r : Reader) (ms : List Mark) : Except Fault (Reader × List Mark) := do
  let (on, stop, rest) ← readLetters [')', '-', ':'] ms
  if on.contains 'L' || (on.contains 'a' && on.contains 'u') then throw .malformed
  if stop = ')' then
    if on = [] then throw .malformed else return (← r.setWhole on, rest)
  if on.contains 't' then throw .malformed
  let (off, rest) ←
    if stop = '-' then do
      let (off, _, rest) ← readLetters [':'] rest
      if off = [] then throw .malformed
      pure (off, rest)
    else pure ([], rest)
  if off.any fun c => ['a', 'u', 'L', 't'].contains c || on.contains c then throw .malformed
  let settings := off.foldl (·.set false ·) (on.foldl (·.set true ·) r.settings)
  return (r.enter .scope settings, rest)

/-- What follows an opening parenthesis and a question mark. -/
def special (r : Reader) : List Mark → Except Fault (Reader × List Mark)
  | .plain 'P' :: .plain '<' :: rest => do
    let (name, rest) ← readName '>' rest
    return (← r.enterNamed name, rest)
  | .plain 'P' :: .plain '=' :: rest => do
    let (name, rest) ← readName ')' rest
    match if isName name then r.named? name else none with
    | some n => return (← r.addSame n, rest)
    | none => throw .malformed
  | .plain ':' :: rest => .ok (r.enter .scope r.settings, rest)
  | .plain '#' :: rest =>
    match rest.dropWhile (· ≠ .plain ')') with
    | _ :: rest => .ok (r, rest)
    | [] => .error .malformed
  | .plain '=' :: rest => .ok (r.enter (.ahead true) r.settings, rest)
  | .plain '!' :: rest => .ok (r.enter (.ahead false) r.settings, rest)
  | .plain '<' :: .plain '=' :: rest =>
    .ok (r.enter (.behind true r.groupCount) r.settings, rest)
  | .plain '<' :: .plain '!' :: rest =>
    .ok (r.enter (.behind false r.groupCount) r.settings, rest)
  | .plain '(' :: rest => do
    let (name, rest) ← readName ')' rest
    return (← r.enterGiven name, rest)
  | .plain '>' :: rest => .ok (r.enter .atomic r.settings, rest)
  | ms => r.readSettings ms

/-! #### Running -/

/-- White space that verbose patterns skip. -/
def isSkipped (c : Char) : Bool := c == ' ' || (9 ≤ c.toNat && c.toNat ≤ 13)

/-- One step: a mark, and what belongs to it. -/
def step (known : CharNames) (r : Reader) (m : Mark) (rest : List Mark) :
    Except Fault (Reader × List Mark) :=
  match m with
  | .escaped c => r.escape known c rest
  | .plain c =>
    if c = '|' then r.nextChoice.map fun r => (r, rest)
    else if c = ')' then r.leave.map fun r => (r, rest)
    else if r.settings.verbose && isSkipped c then .ok (r, rest)
    else if r.settings.verbose && c == '#' then
      .ok (r, (rest.dropWhile (· ≠ .plain '\n')).drop 1)
    else if c = '[' then
      (readClass known r.settings rest).map fun (k, rest) => (r.add (.char k), rest)
    else if c = '?' then r.quantify 0 (some 1) rest
    else if c = '*' then r.quantify 0 none rest
    else if c = '+' then r.quantify 1 none rest
    else if c = openBrace then do
      match ← readCounts rest with
      | some (least, most, rest) => r.quantify least most rest
      | none => return (r.addPoint c.toNat, rest)
    else if c = '.' then
      .ok (r.add (.char (if r.settings.dotAll then .everything else .withinLine)), rest)
    else if c = '^' then
      .ok (r.add (.anchor (if r.settings.multiLine then .lineStart else .textStart)), rest)
    else if c = '$' then
      .ok (r.add (.anchor (if r.settings.multiLine then .lineEnd else .lastLineEnd)), rest)
    else if c = '(' then
      match rest with
      | .plain '?' :: rest => r.special rest
      | rest => .ok (r.enterGroup, rest)
    else .ok (r.addPoint c.toNat, rest)

/-- Steps through marks, with at most `room` groups open at once. -/
def run (known : CharNames) (room : Nat) : Nat → Reader → List Mark → Except Fault Reader
  | _, r, [] => .ok r
  | 0, _, _ => .error .malformed
  | fuel + 1, r, m :: rest => do
    let (r, rest) ← r.step known m rest
    if room < r.outer.length then throw .tooDeep
    run known room fuel r rest

/-- What the whole pattern amounts to. -/
def finish (r : Reader) : Except Fault Pattern :=
  if r.outer ≠ [] then .error .malformed
  else if r.isContrary then .error .contrary
  else if r.asked.any (r.groupCount < ·) || r.looseLook ||
      (r.repeats && r.letters.contains 't') then
    .error .malformed
  else .ok ⟨r.closed.1⟩

end Reader

end BundleGraph.Pattern

namespace BundleGraph

def Pattern.ofText (known : Pattern.CharNames) (room : Nat) (text : String) :
    Except Pattern.Fault Pattern := do
  let marks ← Pattern.marksOf text.toList
  let r ← Pattern.Reader.run known room marks.length .start marks
  r.finish

end BundleGraph
