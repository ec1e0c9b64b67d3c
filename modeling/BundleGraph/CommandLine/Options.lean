import BundleGraph.CommandLine.Similar
import BundleGraph.Text.Quoted
import BundleGraph.Text.Search

/-! # Options and arguments

    The words after a command are options, values of options, and arguments.
    `scan` tells them apart. A word that begins with two dashes is an option of
    that name, perhaps with its value behind an equals sign; a word that begins
    with one dash is a run of one-letter options, of which the last may have its
    value in the same word. Two dashes alone end the options.
-/

namespace BundleGraph.CommandLine

structure OptionSpec where
  /-- Its names, dashes included; the last one is the main name. -/
  names : List String
  /-- What its value is called, if it has one. -/
  value : Option String
  help : String
  deriving DecidableEq, Repr

def OptionSpec.name (o : OptionSpec) : String := o.names.getLastD ""

/-- An option as it was given. -/
structure Given where
  name : String
  value : Option String
  deriving DecidableEq, Repr

/-- What can be wrong with the words of a command. -/
inductive UsageProblem where
  | noSuchOption (name : String) (similar : List String)
  | noSuchCommand (name : String) (similar : List String)
  | missingCommand
  | missingValue (name : String)
  | unwantedValue (name : String)
  | missingArgument (name : String)
  /-- A value names no file. -/
  | noFile (parameter path : String)
  /-- A value names a directory where a file is wanted. -/
  | isDirectory (parameter path : String)
  | extraArguments (words : List String)
  | exclusive (first second : String)
  deriving DecidableEq, Repr

namespace UsageProblem

/-- What is offered instead of a wrong word. -/
def offer : List String → String
  | [] => ""
  | [w] => " Did you mean " ++ Text.quoted w ++ "?"
  | ws => " (Did you mean one of: " ++ ", ".intercalate (ws.map Text.quoted) ++ "?)"

def message : UsageProblem → String
  | noSuchOption name similar => "No such option " ++ Text.quoted name ++ "." ++ offer similar
  | noSuchCommand name similar => "No such command " ++ Text.quoted name ++ "." ++ offer similar
  | missingCommand => "Missing command."
  | missingValue name => "Option " ++ Text.quoted name ++ " requires an argument."
  | unwantedValue name => "Option " ++ Text.quoted name ++ " does not take a value."
  | missingArgument name => "Missing argument " ++ Text.quoted name ++ "."
  | noFile parameter path =>
    "Invalid value for " ++ Text.quoted parameter ++ ": File " ++ Text.quoted path ++
      " does not exist."
  | isDirectory parameter path =>
    "Invalid value for " ++ Text.quoted parameter ++ ": File " ++ Text.quoted path ++
      " is a directory."
  | extraArguments words =>
    "Got unexpected extra argument" ++ (if words.length = 1 then "" else "s") ++ " (" ++
      " ".intercalate words ++ ")"
  | exclusive first second => first ++ " and " ++ second ++ " are mutually exclusive"

/-- Whether the message stands alone, without a reminder of how the command is used. -/
def standsAlone : UsageProblem → Bool
  | missingValue _ => true
  | unwantedValue _ => true
  | _ => false

end UsageProblem

/-! ### Scanning -/

/-- The words of a command, told apart. -/
structure Scanned where
  options : List Given
  arguments : List String
  deriving DecidableEq, Repr

namespace Scanned

def withOption (o : Given) (s : Scanned) : Scanned := { s with options := o :: s.options }

def withArgument (w : String) (s : Scanned) : Scanned :=
  { s with arguments := w :: s.arguments }

/-- The last value given for an option. -/
def value? (s : Scanned) (name : String) : Option String :=
  (s.options.reverse.find? fun o => o.name = name).bind (·.value)

def has (s : Scanned) (name : String) : Bool := s.options.any fun o => o.name = name

end Scanned

def findOption (specs : List OptionSpec) (name : String) : Option OptionSpec :=
  specs.find? fun o => o.names.contains name

/-- Whether a name has two dashes. -/
def isLong (name : String) : Bool := Text.beginsWith "--" name

/-- A run of one-letter options: those without a value, and the one that has a value with the
    rest of the run, if one is there. -/
def scanLetters (specs : List OptionSpec) :
    List Char → Except UsageProblem (List Given × Option (OptionSpec × String × String))
  | [] => .ok ([], none)
  | c :: rest =>
    let name := String.ofList ['-', c]
    match findOption specs name with
    | none => .error (.noSuchOption name [])
    | some o =>
      match o.value with
      | some _ => .ok ([], some (o, name, String.ofList rest))
      | none => (scanLetters specs rest).map fun (given, last) => (⟨o.name, none⟩ :: given, last)

/-- Tells the words of a command apart. Where options cannot follow arguments, the first argument
    ends them. -/
def scan (specs : List OptionSpec) (mixed : Bool) : List String → Except UsageProblem Scanned
  | [] => .ok ⟨[], []⟩
  | word :: rest =>
    let cs := word.toList
    if word = "--" then .ok ⟨[], rest⟩
    else if cs.head? = some '-' ∧ 1 < cs.length then
      let name := String.ofList (cs.takeWhile (· ≠ '='))
      let attached := if cs.contains '=' then some (String.ofList (cs.drop (name.length + 1))) else
        none
      if isLong word then
        match findOption specs name with
        | none =>
          .error (.noSuchOption name
            (similarWords name ((specs.flatMap (·.names)).filter isLong)))
        | some o =>
          match o.value, attached with
          | none, none => (scan specs mixed rest).map (.withOption ⟨o.name, none⟩)
          | none, some _ => .error (.unwantedValue name)
          | some _, some v => (scan specs mixed rest).map (.withOption ⟨o.name, some v⟩)
          | some _, none =>
            match rest with
            | v :: rest => (scan specs mixed rest).map (.withOption ⟨o.name, some v⟩)
            | [] => .error (.missingValue name)
      else
        match scanLetters specs (cs.drop 1) with
        | .error e => .error e
        | .ok (given, none) =>
          (scan specs mixed rest).map fun s => { s with options := given ++ s.options }
        | .ok (given, some (o, letter, attached)) =>
          if attached ≠ "" then
            (scan specs mixed rest).map fun s =>
              { s with options := given ++ ⟨o.name, some attached⟩ :: s.options }
          else
            match rest with
            | v :: rest =>
              (scan specs mixed rest).map fun s =>
                { s with options := given ++ ⟨o.name, some v⟩ :: s.options }
            | [] => .error (.missingValue letter)
    else if mixed then (scan specs mixed rest).map (.withArgument word)
    else .ok ⟨[], word :: rest⟩

end BundleGraph.CommandLine
