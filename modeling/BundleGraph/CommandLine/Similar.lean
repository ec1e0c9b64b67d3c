/-! # Similar words

    A word that is not known may be a slip for one that is. Two words are similar
    if the runs of characters that they share make up most of them: the longest
    run first, then what both have before it, then what both have after it.
-/

namespace BundleGraph.CommandLine

/-- Length of the run with which two lists begin. -/
def commonStart : List Char → List Char → Nat
  | a :: as, b :: bs => if a = b then commonStart as bs + 1 else 0
  | _, _ => 0

/-- A run that two lists share: where it begins in each, and its length. -/
structure Run where
  inFirst : Nat
  inSecond : Nat
  length : Nat

/-- The longest run that two lists share, the first one of several. -/
def longestRun (a b : List Char) : Run :=
  (List.range a.length).foldl
    (fun best i => (List.range b.length).foldl
      (fun best j =>
        let n := commonStart (a.drop i) (b.drop j)
        if best.length < n then ⟨i, j, n⟩ else best) best)
    ⟨0, 0, 0⟩

/-- Number of characters in runs that two lists share. -/
def shared : Nat → List Char → List Char → Nat
  | 0, _, _ => 0
  | fuel + 1, a, b =>
    let r := longestRun a b
    if r.length = 0 then 0
    else
      r.length + shared fuel (a.take r.inFirst) (b.take r.inSecond) +
        shared fuel (a.drop (r.inFirst + r.length)) (b.drop (r.inSecond + r.length))

/-- How similar a word is to another: shared characters, of all characters. -/
structure Similarity where
  word : String
  shared : Nat
  total : Nat

/-- Similarity of a known word to the given one. -/
def similarityOf (given known : String) : Similarity :=
  let a := known.toList
  let b := given.toList
  ⟨known, shared (a.length + 1) a b, a.length + b.length⟩

/-- Whether at least six in ten characters are shared. -/
def Similarity.isClose (s : Similarity) : Bool := 6 * s.total ≤ 20 * s.shared

/-- Whether one word comes before another: it is more similar, or as similar and greater. -/
def Similarity.precedes (a b : Similarity) : Bool :=
  b.shared * a.total < a.shared * b.total ||
    (b.shared * a.total == a.shared * b.total && b.word ≤ a.word)

def offerLimit : Nat := 3

/-- Known words that are similar to the given one, at most three, in alphabetical order. -/
def similarWords (given : String) (known : List String) : List String :=
  let close := (known.map (similarityOf given)).filter Similarity.isClose
  (((close.mergeSort Similarity.precedes).take offerLimit).map (·.word)).mergeSort
    fun a b => a ≤ b

end BundleGraph.CommandLine
