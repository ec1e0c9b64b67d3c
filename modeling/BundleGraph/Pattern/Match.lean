import BundleGraph.Pattern.Node

/-! # Finding patterns

    From a place in a text a part of a pattern leads to other places: the
    outcomes, the preferred one first. Two outcomes at one place with the same
    remembered texts continue alike, so each is listed once.

    A repetition that stands for the empty text is not repeated further, so
    every repetition ends within the text.
-/

namespace BundleGraph.Pattern

/-- A place in a text, with the texts of groups by their ends. -/
structure Outcome where
  position : Nat
  /-- Groups that have a text, with its start and its end. -/
  groups : List (Nat × Nat × Nat)
  deriving DecidableEq, Repr

namespace Outcome

def group? (o : Outcome) (number : Nat) : Option (Nat × Nat) :=
  (o.groups.find? fun g => g.1 = number).map (·.2)

/-- Remembers the text of a group. -/
def remember (o : Outcome) (number start stop : Nat) : Outcome :=
  { o with groups := (number, start, stop) :: o.groups.filter fun g => g.1 ≠ number }

end Outcome

/-- A text in which a pattern is looked for, with the groups whose texts matter. -/
structure Subject where
  text : Array Char
  tracked : List Nat

/-! ### Conditions on places -/

/-- Whether the character at a place is part of a word. -/
def Subject.isWordAt (s : Subject) (ascii : Bool) (i : Nat) : Bool :=
  match s.text[i]? with
  | some c => CharKind.word.holds ascii c
  | none => false

def Anchor.holds (a : Anchor) (s : Subject) (i : Nat) : Bool :=
  let isBreak (i : Nat) : Bool := s.text[i]? == some '\n'
  match a with
  | textStart => i == 0
  | lineStart => i == 0 || isBreak (i - 1)
  | textEnd => i == s.text.size
  | lastLineEnd => i == s.text.size || (i + 1 == s.text.size && isBreak i)
  | lineEnd => i == s.text.size || isBreak i
  | boundary ascii expected =>
    s.text.size != 0 &&
      (((i != 0 && s.isWordAt ascii (i - 1)) != s.isWordAt ascii i) == expected)

/-- Whether the text from `i` on repeats the one between `start` and `stop`. -/
def Subject.repeats (s : Subject) (rule : Text.CaseRule) (start stop i : Nat) : Bool :=
  (List.range (stop - start)).all fun k =>
    match s.text[start + k]?, s.text[i + k]? with
    | some a, some b => rule.fold a.toNat == rule.fold b.toNat
    | _, _ => false

/-! ### Repetition -/

def rounds (body : Outcome → List Outcome) : Nat → List Outcome → List Outcome
  | _, [] => []
  | 0, os => os
  | n + 1, os => rounds body n (os.flatMap body).eraseDups

/-- Outcomes after at most `n` rounds. A pair of rounds left and outcome that was `seen` leads
    nowhere new. -/
def furtherRounds (isLazy : Bool) (body : Outcome → List Outcome) :
    Nat → Outcome → List (Nat × Outcome) → List Outcome × List (Nat × Outcome)
  | 0, o, seen => ([o], seen)
  | n + 1, o, seen =>
    if (n + 1, o) ∈ seen then ([], seen)
    else
      let (found, seen) := (body o).foldl
        (fun (found, seen) next =>
          if next.position = o.position then (found ++ [next], seen)
          else
            let (more, seen) := furtherRounds isLazy body n next seen
            (found ++ more, seen))
        ([], (n + 1, o) :: seen)
      (if isLazy then o :: found else found ++ [o], seen)

/-- Exactly `n` rounds, each by its first outcome. -/
def firmRounds (body : Outcome → List Outcome) : Nat → Outcome → Option Outcome
  | 0, o => some o
  | n + 1, o =>
    match (body o).head? with
    | some next => firmRounds body n next
    | none => none

/-- As many rounds as there are, but at most `n`, each by its first outcome. -/
def furtherFirmRounds (body : Outcome → List Outcome) : Nat → Outcome → Outcome
  | 0, o => o
  | n + 1, o =>
    match (body o).head? with
    | some next =>
      if next.position = o.position then next else furtherFirmRounds body n next
    | none => o

/-- Rounds beyond the least number that can matter from a place on. -/
def Subject.roundsLeft (s : Subject) (least : Nat) (most : Option Nat) (o : Outcome) : Nat :=
  let useful := s.text.size - o.position + 1
  match most with
  | some m => min (m - least) useful
  | none => useful

def repetition (s : Subject) (greed : Greed) (least : Nat) (most : Option Nat)
    (body : Outcome → List Outcome) (o : Outcome) : List Outcome :=
  match greed with
  | .possessive =>
    match firmRounds body least o with
    | some o => [furtherFirmRounds body (s.roundsLeft least most o) o]
    | none => []
  | g =>
    ((rounds body least [o]).flatMap fun o =>
      (furtherRounds (g == .lazy) body (s.roundsLeft least most o) o []).1).eraseDups

/-! ### Matching -/

namespace Node

/-- Outcomes of a part from a place on, the preferred one first. -/
def outcomes (s : Subject) : Node → Outcome → List Outcome
  | empty, o => [o]
  | char k, o =>
    match s.text[o.position]? with
    | some c => if k.holds c then [{ o with position := o.position + 1 }] else []
    | none => []
  | anchor a, o => if a.holds s o.position then [o] else []
  | seq a b, o => ((a.outcomes s o).flatMap (b.outcomes s)).eraseDups
  | either a b, o => (a.outcomes s o ++ b.outcomes s o).eraseDups
  | repeated greed least most body, o => repetition s greed least most (body.outcomes s) o
  | group n body, o =>
    let found := body.outcomes s o
    if n ∈ s.tracked then found.map fun e => e.remember n o.position e.position else found
  | scope body, o => body.outcomes s o
  | atomic body, o => (body.outcomes s o).head?.toList
  | look back holds body, o =>
    let width := back.getD 0
    let found :=
      if o.position < width then none
      else (body.outcomes s { o with position := o.position - width }).head?
    match found, holds with
    | some e, true => [{ e with position := o.position }]
    | none, false => [o]
    | _, _ => []
  | same n rule, o =>
    match o.group? n with
    | some (start, stop) =>
      if s.repeats rule start stop o.position then
        [{ o with position := o.position + (stop - start) }]
      else []
    | none => []
  | given n yes no, o => if (o.group? n).isSome then yes.outcomes s o else no.outcomes s o

end Node

end BundleGraph.Pattern

namespace BundleGraph

structure Pattern where
  node : Pattern.Node
  deriving DecidableEq, Repr

/-- Whether some part of a text, or the empty text somewhere in it, is as a pattern says. -/
def Pattern.occursIn (p : Pattern) (text : String) : Bool :=
  let s : Pattern.Subject := ⟨text.toList.toArray, p.node.references⟩
  (List.range (s.text.size + 1)).any fun i => !(p.node.outcomes s ⟨i, []⟩).isEmpty

end BundleGraph
