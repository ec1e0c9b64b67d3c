import BundleGraph.Document.Check
import BundleGraph.Json.Reader
import BundleGraph.Pattern.Reader
import BundleGraph.Syntax.Parse
import BundleGraph.Yaml.Value

/-! # Libraries

    What the program takes from elsewhere: readers of JSON and of YAML, regular
    expressions, the parsers of the source languages, and a bound on the documents
    that are checked. The other modules take these as they come. Whatever they
    answer, they say how the program goes on from there.

    `Libraries.plain` runs. Where the depth of nested values is bounded, the bound
    is that of a program which has a thousand levels of calls and uses some of them
    itself.
-/

namespace BundleGraph

/-- Documents that are read from files. -/
inductive DocumentKind where
  | buildStats
  | sizeReport
  | config
  deriving DecidableEq, Repr

/-- What is taken from elsewhere. -/
structure Libraries where
  /-- The value that a JSON text writes. -/
  json : String → Except Json.ReadError Json
  /-- The value that the bytes of a YAML file write. -/
  yaml : ByteArray → Except Yaml.Fault Yaml.Value
  /-- Why a document is refused whatever its records say, as for its depth. -/
  refusal : DocumentKind → Json → Option Document.Invalid
  /-- The search for a pattern in a text. -/
  pattern : String → Except Pattern.Fault (String → Bool)
  tree : Syntax.Dialect → String → Syntax.Node

namespace Libraries

def parse (lib : Libraries) (dialect : Syntax.Dialect) (text : String) : Syntax.Parsed :=
  ⟨text, lib.tree dialect text⟩

/-- Names of the characters of ASCII that are no letters and no digits. -/
def signNames : List (String × Nat) :=
  [("SPACE", 0x20), ("EXCLAMATION MARK", 0x21), ("QUOTATION MARK", 0x22), ("NUMBER SIGN", 0x23),
    ("DOLLAR SIGN", 0x24), ("PERCENT SIGN", 0x25), ("AMPERSAND", 0x26), ("APOSTROPHE", 0x27),
    ("LEFT PARENTHESIS", 0x28), ("RIGHT PARENTHESIS", 0x29), ("ASTERISK", 0x2A),
    ("PLUS SIGN", 0x2B), ("COMMA", 0x2C), ("HYPHEN-MINUS", 0x2D), ("FULL STOP", 0x2E),
    ("SOLIDUS", 0x2F), ("COLON", 0x3A), ("SEMICOLON", 0x3B), ("LESS-THAN SIGN", 0x3C),
    ("EQUALS SIGN", 0x3D), ("GREATER-THAN SIGN", 0x3E), ("QUESTION MARK", 0x3F),
    ("COMMERCIAL AT", 0x40), ("LEFT SQUARE BRACKET", 0x5B), ("REVERSE SOLIDUS", 0x5C),
    ("RIGHT SQUARE BRACKET", 0x5D), ("CIRCUMFLEX ACCENT", 0x5E), ("LOW LINE", 0x5F),
    ("GRAVE ACCENT", 0x60), ("LEFT CURLY BRACKET", 0x7B), ("VERTICAL LINE", 0x7C),
    ("RIGHT CURLY BRACKET", 0x7D), ("TILDE", 0x7E)]

def digitNames : List String :=
  ["ZERO", "ONE", "TWO", "THREE", "FOUR", "FIVE", "SIX", "SEVEN", "EIGHT", "NINE"]

/-- The characters of ASCII by their names, in either case of letters. -/
def asciiNames : Pattern.CharNames := fun name =>
  let name := String.ofList (name.toList.map Char.toUpper)
  let letters (kind : String) (first : Nat) : List (String × Nat) :=
    (List.range 26).map fun i =>
      ("LATIN " ++ kind ++ " LETTER " ++ String.singleton (Char.ofNat (65 + i)), first + i)
  let digits := digitNames.mapIdx fun i word => ("DIGIT " ++ word, 48 + i)
  (signNames ++ digits ++ letters "CAPITAL" 65 ++ letters "SMALL" 97).lookup name

/-- The readers of this project, with names for the characters of ASCII. Values of JSON can be
    nested 970 deep, those of YAML 480 deep, and so can groups of patterns. -/
def plain : Libraries where
  json := Json.parse 970
  yaml := Yaml.Value.ofBytes 480
  refusal _ _ := none
  pattern text := (Pattern.ofText asciiNames 480 text).map fun p => p.occursIn
  tree := Syntax.treeOf

end Libraries

end BundleGraph
