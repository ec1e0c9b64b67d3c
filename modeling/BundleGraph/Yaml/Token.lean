import BundleGraph.Yaml.Scalar

/-! # Tokens of a YAML text

    `Token.scan` cuts a text into tokens. Indentation becomes tokens as well:
    where a column opens a block there is a token that starts it, and where a
    later line falls back there are tokens that end blocks.

    A key is only known as one when its colon comes. Until then its place is
    remembered as a possible key, one for each depth of brackets, and the token
    for the key is put in later.
-/

namespace BundleGraph.Yaml

inductive Token where
  | directive (name : String) (values : List String)
  | documentStart
  | documentEnd
  | blockSequenceStart
  | blockMappingStart
  | blockEnd
  | flowSequenceStart
  | flowMappingStart
  | flowSequenceEnd
  | flowMappingEnd
  | flowEntry
  | blockEntry
  | key
  | value
  | mention (name : String)
  | anchor (name : String)
  | tag (handle : Option String) (suffix : String)
  | scalar (text : String) (plain : Bool)
  | streamEnd
  deriving DecidableEq, Repr

/-- A place at which a key may have begun. -/
structure PossibleKey where
  /-- Number of tokens before it. -/
  position : Nat
  /-- Whether nothing but a key can stand there. -/
  required : Bool
  /-- Where it begins. -/
  start : Cursor

/-- What is known between two tokens. -/
structure Scan where
  cursor : Cursor
  tokens : Array Token
  flow : Nat
  /-- Column of the innermost block; -1 outside of all. -/
  indent : Int
  /-- Columns of the blocks around it. -/
  indents : List Int
  /-- Whether a key may begin here. -/
  keyAllowed : Bool
  /-- Possible keys by depth of brackets. -/
  keys : List (Nat × PossibleKey)

/-- A step that goes on in a text and adds tokens. -/
abbrev Scanner (α : Type) := StateT Scan (Except Fault) α

namespace Scanner

def malformed {α : Type} : Scanner α := throw Fault.malformed

def place : Scanner Cursor := return (← get).cursor

def goto (c : Cursor) : Scanner Unit := modify fun s => { s with cursor := c }

def emit (t : Token) : Scanner Unit := modify fun s => { s with tokens := s.tokens.push t }

def allowKey (b : Bool) : Scanner Unit := modify fun s => { s with keyAllowed := b }

/-- Whether the place is outside of brackets. -/
def outsideFlow : Scanner Bool := return (← get).flow == 0

/-! ### Possible keys -/

def dropKey : Scanner Unit := do
  let s ← get
  if (s.keys.lookup s.flow).any (·.required) then malformed
  set { s with keys := s.keys.filter (·.1 != s.flow) }

/-- Remembers this place as the start of a possible key. -/
def saveKey : Scanner Unit := do
  let s ← get
  if s.keyAllowed then
    dropKey
    let required := s.flow == 0 && s.indent == s.cursor.column
    modify fun s => { s with
      keys := (s.flow, ⟨s.tokens.size, required, s.cursor⟩) :: s.keys }

/-- The most characters between the start of a key and its colon. -/
def longestKey : Nat := 1024

/-- Forgets possible keys that began on an earlier line or too far back. -/
def dropStaleKeys : Scanner Unit := do
  let s ← get
  let isStale (k : Nat × PossibleKey) : Bool :=
    k.2.start.line != s.cursor.line || longestKey < s.cursor.index - k.2.start.index
  if s.keys.any fun k => isStale k && k.2.required then malformed
  set { s with keys := s.keys.filter fun k => !isStale k }

/-! ### Indentation -/

/-- Ends the blocks of the given columns that are deeper than `column`; `indent` is the innermost.
    -/
def unwindFrom (column : Int) (indent : Int) : List Int → Scanner Unit
  | [] => modify fun s => { s with indent := indent, indents := [] }
  | outer :: rest =>
    if column < indent then do
      emit .blockEnd
      unwindFrom column outer rest
    else modify fun s => { s with indent := indent, indents := outer :: rest }

/-- Ends the blocks that are deeper than `column`; inside brackets columns do not count. -/
def unwind (column : Int) : Scanner Unit := do
  let s ← get
  if s.flow == 0 then unwindFrom column s.indent s.indents

/-- Opens a block at a column, if that is deeper than the innermost; says whether it did. -/
def openBlock (column : Nat) : Scanner Bool := do
  let s ← get
  if s.indent < column then
    set { s with indent := (column : Int), indents := s.indent :: s.indents }
    return true
  else return false

/-! ### White space -/

/-- Goes on to the next token, in at most `n` lines. -/
def toNextTokenFor : Nat → Scanner Unit
  | 0 => pure ()
  | n + 1 => do
    let c := (← place).skip (· == ' ')
    let c := if c.here == '#' then c.skip fun ch => !endsLine ch else c
    if isBreak c.here then
      goto c.lineBreak.2
      if ← outsideFlow then allowKey true
      toNextTokenFor n
    else goto c

def toNextToken : Scanner Unit := do
  let c ← place
  let c := if c.index == 0 && c.here.toNat == 0xFEFF then c.next else c
  goto c
  toNextTokenFor (c.rest.length + 1)

/-! ### Directives, anchors, tags -/

/-- A word of letters, digits and hyphens. -/
def word : Scanner String := do
  let (w, c) := (← place).takeWhile isWordChar
  if w.isEmpty then malformed
  goto c
  return String.ofList w

def digits : Scanner String := do
  let (w, c) := (← place).takeWhile Char.isDigit
  if w.isEmpty then malformed
  goto c
  return String.ofList w

def skipSpaces : Scanner Unit := do goto ((← place).skip (· == ' '))

/-- The handle of a tag: a word between exclamation marks, or one mark. -/
def tagHandle : Scanner String := do
  let c ← place
  if c.here != '!' then malformed
  if c.peek 1 == ' ' then
    goto c.next
    return "!"
  let (w, rest) := c.next.takeWhile isWordChar
  if rest.here != '!' then malformed
  goto rest.next
  return "!" ++ String.ofList w ++ "!"

/-- Characters of a tag. -/
def isTagChar (c : Char) : Bool := c.isAlphanum || "-;/?:@&=+$,_.!~*'()[]%".toList.contains c

/-- The bytes of the characters, with escaped bytes taken as they are. -/
def tagBytes : List Char → Option (List UInt8)
  | [] => some []
  | '%' :: a :: b :: rest =>
    if isHex a && isHex b then
      (tagBytes rest).map ((hexValue a * 16 + hexValue b).toUInt8 :: ·)
    else none
  | c :: rest =>
    if c == '%' then none else (tagBytes rest).map (c.toNat.toUInt8 :: ·)

def tagText : Scanner String := do
  let (w, c) := (← place).takeWhile isTagChar
  if w.isEmpty then malformed
  goto c
  match (tagBytes w).bind fun bs => String.fromUTF8? (ByteArray.mk bs.toArray) with
  | some s => return s
  | none => malformed

def directive : Scanner Unit := do
  goto (← place).next
  let name ← word
  if !isSpaceOrEnd (← place).here then malformed
  let values ←
    if name == "YAML" then do
      skipSpaces
      let major ← digits
      if (← place).here != '.' then malformed
      goto (← place).next
      let minor ← digits
      if !isSpaceOrEnd (← place).here then malformed
      pure [major, minor]
    else if name == "TAG" then do
      skipSpaces
      let handle ← tagHandle
      if (← place).here != ' ' then malformed
      skipSpaces
      let start ← tagText
      if !isSpaceOrEnd (← place).here then malformed
      pure [handle, start]
    else do
      goto ((← place).skip fun ch => !endsLine ch)
      pure []
  goto (← restOfLine (← place))
  emit (.directive name values)

def reference (make : String → Token) : Scanner Unit := do
  goto (← place).next
  let name ← word
  let ch := (← place).here
  if !(isBlankOrEnd ch || "?:,]%@".toList.contains ch || ch == '\x7d' || ch.toNat == 0x60) then
    malformed
  emit (make name)

/-- Whether an exclamation mark ends a handle: it stands before the next space. -/
def hasSecondMark (c : Cursor) : Bool :=
  (c.next.rest.takeWhile fun ch => !isSpaceOrEnd ch).contains '!'

def tag : Scanner Unit := do
  let c ← place
  let t ←
    if c.peek 1 == '<' then do
      goto (c.forward 2)
      let suffix ← tagText
      if (← place).here != '>' then malformed
      goto (← place).next
      pure (Token.tag none suffix)
    else if isBlankOrEnd (c.peek 1) then do
      goto c.next
      pure (Token.tag none "!")
    else do
      let handle ←
        if hasSecondMark c then tagHandle
        else do
          goto c.next
          pure "!"
      let suffix ← tagText
      pure (Token.tag (some handle) suffix)
  if !isSpaceOrEnd (← place).here then malformed
  emit t

/-! ### Tokens -/

/-- One character that is a token of its own. -/
def single (t : Token) : Scanner Unit := do
  goto (← place).next
  emit t

/-- The end of the text. -/
def finish : Scanner Unit := do
  unwind (-1)
  dropKey
  emit .streamEnd

/-- A mark between documents. -/
def documentMark (t : Token) : Scanner Unit := do
  unwind (-1)
  dropKey
  allowKey false
  goto ((← place).forward 3)
  emit t

def flowStart (t : Token) : Scanner Unit := do
  saveKey
  modify fun s => { s with flow := s.flow + 1, keyAllowed := true }
  single t

def flowEnd (t : Token) : Scanner Unit := do
  dropKey
  modify fun s => { s with flow := s.flow - 1, keyAllowed := false }
  single t

def flowEntry : Scanner Unit := do
  allowKey true
  dropKey
  single .flowEntry

/-- The mark of an item or of an explicit key outside of brackets, which may open a block. -/
def openingMark (start : Token) : Scanner Unit := do
  if ← outsideFlow then
    let s ← get
    if !s.keyAllowed then malformed
    if ← openBlock s.cursor.column then emit start

/-- The mark of an item. -/
def blockEntry : Scanner Unit := do
  openingMark .blockSequenceStart
  allowKey true
  dropKey
  single .blockEntry

/-- The mark of an explicit key. -/
def explicitKey : Scanner Unit := do
  openingMark .blockMappingStart
  allowKey (← outsideFlow)
  dropKey
  single .key

/-- Puts tokens before the token with the given number. -/
def insertAt (position : Nat) (ts : List Token) : Scanner Unit :=
  modify fun s => { s with
    tokens := ((s.tokens.toList.take position) ++ ts ++ s.tokens.toList.drop position).toArray }

/-- The colon behind a key. -/
def valueMark : Scanner Unit := do
  let s ← get
  match s.keys.lookup s.flow with
  | some key =>
    set { s with keys := s.keys.filter (·.1 != s.flow) }
    let start ← if s.flow == 0 then openBlock key.start.column else pure false
    insertAt key.position (if start then [.blockMappingStart, .key] else [.key])
    allowKey false
  | none =>
    openingMark .blockMappingStart
    allowKey (s.flow == 0)
    dropKey
  single .value

def block (folded : Bool) : Scanner Unit := do
  allowKey true
  dropKey
  let s ← get
  let (text, c) ← blockScalar folded s.indent s.cursor
  goto c
  emit (.scalar (String.ofList text) false)

def quoted (double : Bool) : Scanner Unit := do
  saveKey
  allowKey false
  let (text, c) ← quotedScalar double (← place)
  goto c
  emit (.scalar (String.ofList text) false)

def plain : Scanner Unit := do
  saveKey
  let s ← get
  let p := plainScalar (s.flow != 0) (s.indent + 1) s.cursor
  goto p.stop
  allowKey p.lineEnded
  emit (.scalar (String.ofList p.text) true)

/-- Characters that no plain scalar begins with. -/
def isIndicator (c : Char) : Bool :=
  "-?:,[]#&*!|>'\"%@".toList.contains c || c == '\x7b' || c == '\x7d' || c.toNat == 0x60

/-- Whether a plain scalar begins here. -/
def atPlain (flow : Bool) (c : Cursor) : Bool :=
  !(isBlankOrEnd c.here || isIndicator c.here) ||
    (!isBlankOrEnd (c.peek 1) && (c.here == '-' || (!flow && (c.here == '?' || c.here == ':'))))

/-- The next token, with the tokens that it brings along. -/
def token : Scanner Unit := do
  let s ← get
  let c := s.cursor
  let flow := s.flow != 0
  let ch := c.here
  let blankNext := isBlankOrEnd (c.peek 1)
  let save (k : Scanner Unit) : Scanner Unit := do
    saveKey
    allowKey false
    k
  if ch == nul then finish
  else if ch == '%' && c.column == 0 then do
    unwind (-1)
    dropKey
    allowKey false
    directive
  else if c.column == 0 && c.startsWith "---" && c.atDocumentMark then documentMark .documentStart
  else if c.column == 0 && c.startsWith "..." && c.atDocumentMark then documentMark .documentEnd
  else if ch == '[' then flowStart .flowSequenceStart
  else if ch == '\x7b' then flowStart .flowMappingStart
  else if ch == ']' then flowEnd .flowSequenceEnd
  else if ch == '\x7d' then flowEnd .flowMappingEnd
  else if ch == ',' then flowEntry
  else if ch == '-' && blankNext then blockEntry
  else if ch == '?' && (flow || blankNext) then explicitKey
  else if ch == ':' && (flow || blankNext) then valueMark
  else if ch == '*' then save (reference .mention)
  else if ch == '&' then save (reference .anchor)
  else if ch == '!' then save tag
  else if ch == '|' && !flow then block false
  else if ch == '>' && !flow then block true
  else if ch == '\'' then quoted false
  else if ch == '"' then quoted true
  else if atPlain flow c then plain
  else malformed

/-- All tokens, at most `n` of them. -/
def tokensFor : Nat → Scanner Unit
  | 0 => malformed
  | n + 1 => do
    toNextToken
    dropStaleKeys
    unwind (← place).column
    let ended := (← place).here == nul
    token
    if !ended then tokensFor n

end Scanner

def Token.scan (text : String) : Except Fault (List Token) :=
  let cs := text.toList
  if cs.all isPrintable then
    let start : Scan := ⟨.start cs, #[], 0, -1, [], false, []⟩
    (Scanner.tokensFor (cs.length + 1) { start with keyAllowed := true }).map fun r =>
      r.2.tokens.toList
  else .error .malformed

end BundleGraph.Yaml
