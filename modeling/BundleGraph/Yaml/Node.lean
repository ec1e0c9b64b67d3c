import BundleGraph.Yaml.Token
import BundleGraph.Yaml.Tag

/-! # Nodes of a YAML text

    A node is a scalar, a sequence or a mapping, with the tag that says what it
    stands for. `Node.ofText` reads the one document of a text; an alias stands
    for a copy of its node, and inside that node for an empty one. Collections
    can be nested to some depth only.
-/

namespace BundleGraph.Yaml

inductive Node where
  | scalar (tag : String) (text : String)
  | sequence (tag : String) (items : List Node)
  | mapping (tag : String) (pairs : List (Node × Node))
  deriving Repr, Inhabited

/-- What is known while nodes are read. -/
structure Reading where
  tokens : List Token
  handles : List (String × String)
  /-- Nodes that aliases can stand for. -/
  anchors : List (String × Node)
  /-- Number of collections that may still be entered. -/
  room : Nat

/-- A step that reads tokens. -/
abbrev Reader (α : Type) := StateT Reading (Except Fault) α

namespace Reader

/-- Fails with the fault of a broken rule. -/
def malformed {α : Type} : Reader α := throw Fault.malformed

def next : Reader Token := return (← get).tokens.headD .streamEnd

def take : Reader Unit := modify fun s => { s with tokens := s.tokens.tail }

/-- Takes the token if it is next, and says whether it was. -/
def took (t : Token) : Reader Bool := do
  if (← next) == t then
    take
    return true
  else return false

def nextIsOneOf (ts : List Token) : Reader Bool := return ts.contains (← next)

def emptyNode : Node := .scalar Tag.null ""

/-! ### Properties -/

/-- An anchor and a tag, each at most once. -/
structure Properties where
  anchor : Option String
  tag : Option String

def anchor? : Reader (Option String) := do
  match ← next with
  | .anchor name =>
    take
    return some name
  | _ => return none

def tag? : Reader (Option String) := do
  match ← next with
  | .tag none suffix =>
    take
    return some suffix
  | .tag (some handle) suffix =>
    take
    match (← get).handles.lookup handle with
    | some start => return some (start ++ suffix)
    | none => malformed
  | _ => return none

/-- Takes an anchor and a tag in either order. -/
def properties : Reader Properties := do
  match ← anchor? with
  | some a => return ⟨some a, ← tag?⟩
  | none =>
    match ← tag? with
    | some t => return ⟨← anchor?, some t⟩
    | none => return ⟨none, none⟩

/-- Lets a name stand for a node. -/
def name (anchor : Option String) (n : Node) : Reader Unit :=
  match anchor with
  | some a => modify fun s => { s with anchors := (a, n) :: s.anchors }
  | none => pure ()

/-- The tag of a collection: the one that is given, or else the usual one. -/
def collectionTag (given : Option String) (usual : String) : String :=
  match given with
  | some t => if t == "!" then usual else t
  | none => usual

/-! ### Nodes -/

/-- Reads what is in a collection. -/
def inside {α : Type} (content : Reader α) : Reader α := do
  let room := (← get).room
  if room = 0 then throw Fault.tooDeep
  modify fun s => { s with room := room - 1 }
  let found ← content
  modify fun s => { s with room := room }
  return found

/-- Where a node stands. -/
inductive Position where
  /-- In a block. -/
  | block
  /-- In a block mapping, where the items of a sequence need not be indented. -/
  | entry
  /-- In brackets. -/
  | flow
  deriving DecidableEq, Repr

/-- Tokens behind which nothing stands for the value of a pair in a block. -/
def pairEnds : List Token := [.key, .value, .blockEnd]

mutual

/-- A node, of at most `n` tokens. -/
def nodeFor : Nat → Position → Reader Node
  | 0, _ => malformed
  | n + 1, position => do
    match ← next with
    | .mention a =>
      take
      match (← get).anchors.lookup a with
      | some node => return node
      | none => malformed
    | _ =>
      let p ← properties
      let known := (← get).anchors
      if p.anchor.any fun a => (known.lookup a).isSome then malformed
      let sequence (items : Reader (List Node)) : Reader Node := do
        let tag := collectionTag p.tag Tag.sequence
        name p.anchor (.sequence tag [])
        let node := Node.sequence tag (← inside items)
        name p.anchor node
        return node
      let mapping (pairs : Reader (List (Node × Node))) : Reader Node := do
        let tag := collectionTag p.tag Tag.mapping
        name p.anchor (.mapping tag [])
        let node := Node.mapping tag (← inside pairs)
        name p.anchor node
        return node
      match ← next with
      | .blockEntry =>
        if position == .entry then sequence (itemsFor n [.key, .value, .blockEnd])
        else if p.anchor.isSome || p.tag.isSome then emptyWith p
        else malformed
      | .scalar text plain =>
        take
        let tag := match p.tag with
          | none => if plain then Tag.ofPlain text else Tag.string
          | some t => if t == "!" then Tag.ofPlain text else t
        let node := Node.scalar tag text
        name p.anchor node
        return node
      | .flowSequenceStart =>
        take
        sequence (flowItemsFor n true)
      | .flowMappingStart =>
        take
        mapping (flowPairsFor n true)
      | .blockSequenceStart =>
        if position == .flow then
          if p.anchor.isSome || p.tag.isSome then emptyWith p else malformed
        else
          take
          sequence do
            let items ← itemsFor n [.blockEnd]
            if ← took .blockEnd then return items else malformed
      | .blockMappingStart =>
        if position == .flow then
          if p.anchor.isSome || p.tag.isSome then emptyWith p else malformed
        else
          take
          mapping do
            let pairs ← pairsFor n
            if ← took .blockEnd then return pairs else malformed
      | _ => if p.anchor.isSome || p.tag.isSome then emptyWith p else malformed

def emptyWith (p : Properties) : Reader Node := do
  let tag := match p.tag with
    | none => Tag.null
    | some t => if t == "!" then Tag.null else t
  let node := Node.scalar tag ""
  name p.anchor node
  return node

/-- A node, or an empty one where one of the tokens is next. -/
def nodeUnlessFor : Nat → Position → List Token → Reader Node
  | 0, _, _ => malformed
  | n + 1, position, ends => do
    if ← nextIsOneOf ends then return emptyNode else nodeFor n position

/-- Items of a block sequence; one of the tokens may end an item without a node. -/
def itemsFor : Nat → List Token → Reader (List Node)
  | 0, _ => malformed
  | n + 1, ends => do
    if ← took .blockEntry then
      let item ← nodeUnlessFor n .block (.blockEntry :: ends)
      return item :: (← itemsFor n ends)
    else return []

def pairsFor : Nat → Reader (List (Node × Node))
  | 0 => malformed
  | n + 1 => do
    if ← took .key then
      let key ← nodeUnlessFor n .entry pairEnds
      let value ← if ← took .value then nodeUnlessFor n .entry pairEnds else pure emptyNode
      return (key, value) :: (← pairsFor n)
    else return []

/-- Items of a sequence in brackets, and the closing bracket. -/
def flowItemsFor : Nat → Bool → Reader (List Node)
  | 0, _ => malformed
  | n + 1, first => do
    if ← took .flowSequenceEnd then return []
    else
      if !first then
        if !(← took .flowEntry) then malformed
      if ← took .flowSequenceEnd then return []
      else if ← took .key then
        let key ← nodeUnlessFor n .flow [.value, .flowEntry, .flowSequenceEnd]
        let value ← if ← took .value then nodeUnlessFor n .flow [.flowEntry, .flowSequenceEnd]
          else pure emptyNode
        return .mapping Tag.mapping [(key, value)] :: (← flowItemsFor n false)
      else
        let item ← nodeFor n .flow
        return item :: (← flowItemsFor n false)

/-- Pairs of a mapping in brackets, and the closing bracket. -/
def flowPairsFor : Nat → Bool → Reader (List (Node × Node))
  | 0, _ => malformed
  | n + 1, first => do
    if ← took .flowMappingEnd then return []
    else
      if !first then
        if !(← took .flowEntry) then malformed
      if ← took .flowMappingEnd then return []
      else if ← took .key then
        let key ← nodeUnlessFor n .flow [.value, .flowEntry, .flowMappingEnd]
        let value ← if ← took .value then nodeUnlessFor n .flow [.flowEntry, .flowMappingEnd]
          else pure emptyNode
        return (key, value) :: (← flowPairsFor n false)
      else
        let key ← nodeFor n .flow
        return (key, emptyNode) :: (← flowPairsFor n false)

end

/-! ### Documents -/

/-- Handles that every document has. -/
def standardHandles : List (String × String) := [("!", "!"), ("!!", Tag.standard)]

/-- Takes the directives of a document; `version` says whether its version was given. -/
def directivesFor (version : Bool) (handles : List (String × String)) : List Token → Reader Unit
  | .directive name values :: rest => do
    take
    match values with
    | [a, b] =>
      if name == "YAML" then
        if version || a.toNat? != some 1 then malformed else directivesFor true handles rest
      else if (handles.lookup a).isSome then malformed
      else directivesFor version ((a, b) :: handles) rest
    | _ => directivesFor version handles rest
  | _ => modify fun s => { s with handles := handles ++ standardHandles }

def contentIsMissing : Reader Bool := do
  match ← next with
  | .directive .. | .documentStart | .documentEnd | .streamEnd => return true
  | _ => return false

/-- Takes the marks behind a document. -/
def endMarks : Reader Unit :=
  modify fun s => { s with tokens := s.tokens.dropWhile (· == .documentEnd) }

/-- The node at the top of a document, and the marks behind it. -/
def content : Reader Node := do
  let node ← nodeFor (4 * (← get).tokens.length + 8) .block
  endMarks
  return node

/-- The node of a document whose start is marked; there may be none. -/
def markedContent : Reader Node := do
  if ← contentIsMissing then
    endMarks
    return emptyNode
  else content

/-- The one document of a text; none where there is nothing. -/
def document : Reader (Option Node) := do
  let node ← match ← next with
    | .streamEnd => pure none
    | .directive .. | .documentStart => do
      directivesFor false [] (← get).tokens
      if ← took .documentStart then some <$> markedContent else malformed
    | _ => some <$> content
  if (← next) == .streamEnd then return node else malformed

end Reader

/-- Reads the one document of a text, with at most `room` collections inside each other. -/
def Node.ofText (room : Nat) (text : String) : Except Fault (Option Node) := do
  let tokens ← Token.scan text
  return (← Reader.document.run ⟨tokens, Reader.standardHandles, [], room⟩).1

end BundleGraph.Yaml
