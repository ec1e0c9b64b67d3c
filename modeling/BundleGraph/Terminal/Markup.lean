import BundleGraph.Text.Letters

/-! # Style marks

    Text for a terminal may hold style marks in square brackets. They are not
    shown: a mark opens a style, and the same name behind a slash, or a slash
    alone, closes it. A backslash before a mark makes it ordinary text. A closing
    mark without an open style is an error.
-/

namespace BundleGraph.Terminal

open Text

/-- Whether a style mark can begin with a character. -/
def startsMark (c : Char) : Bool := c.isLower || c == '#' || c == '/' || c == '@'

/-- The name in a mark, after its opening bracket, and what follows the mark. -/
def markBody? (cs : List Char) : Option (List Char × List Char) :=
  match cs with
  | [] => none
  | c :: _ =>
    if startsMark c then
      let body := cs.takeWhile fun c => c ≠ ']' ∧ c ≠ '['
      match cs.drop body.length with
      | ']' :: rest => some (body, rest)
      | _ => none
    else none

/-- The name of a style without regard to case and blanks around it. -/
def styleName (cs : List Char) : List Char := (trim.stripBlanks cs).map Char.toLower

/-- The styles that are open after a mark; none if it closes what is not open. -/
def applyMark (body : List Char) (opened : List (List Char)) : Option (List (List Char)) :=
  let name := body.takeWhile (· ≠ '=')
  match name with
  | '/' :: closing =>
    let closing := styleName closing
    if closing = [] then
      match opened with
      | _ :: rest => some rest
      | [] => none
    else if closing ∈ opened then some (opened.erase closing)
    else none
  | _ => some (styleName name :: opened)

/-- Ordinary text: a backslash before a bracket is not shown. -/
def unescapeBrackets : List Char → List Char
  | '\\' :: '[' :: rest => '[' :: unescapeBrackets rest
  | c :: rest => c :: unescapeBrackets rest
  | [] => []

/-- The text that is shown; `pending` is ordinary text before this place, last character first. -/
def shownFrom : Nat → List Char → List (List Char) → List Char → Option (List Char)
  | _, pending, _, [] => some (unescapeBrackets pending.reverse)
  | 0, pending, _, _ => some (unescapeBrackets pending.reverse)
  | fuel + 1, pending, opened, c :: rest =>
    let slashes := (c :: rest).takeWhile (· == '\\')
    match (c :: rest).drop slashes.length with
    | '[' :: after =>
      match markBody? after with
      | some (body, after) => do
        let before := unescapeBrackets pending.reverse ++
          List.replicate (slashes.length / 2) '\\'
        if slashes.length % 2 = 1 then
          return before ++ unescapeBrackets ('[' :: body ++ [']']) ++
            (← shownFrom fuel [] opened after)
        else return before ++ (← shownFrom fuel [] (← applyMark body opened) after)
      | none =>
        shownFrom fuel ('[' :: slashes ++ pending) opened after
    | after =>
      if slashes = [] then shownFrom fuel (c :: pending) opened rest
      else shownFrom fuel (slashes ++ pending) opened after

/-- The text that is shown for a text with style marks; none if a mark closes what is not open. -/
def shown? (cs : List Char) : Option (List Char) := shownFrom cs.length [] [] cs

/-- Controls that a terminal text does not keep. -/
def isDroppedControl (c : Char) : Bool := [7, 8, 11, 12, 13].contains c.toNat

end BundleGraph.Terminal
