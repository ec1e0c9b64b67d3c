import BundleGraph.Text.Letters

/-! # Comparing letters without regard to case

    Case aside, two characters are the same if their small letters are, or if
    these have one capital letter. `variants` lists the code points that are the
    same as a given one.
-/

namespace BundleGraph.Text

/-- How far case counts in a comparison. -/
inductive CaseRule where
  | exact
  /-- Case does not count in letters of ASCII. -/
  | ascii
  /-- Case does not count in any letter. -/
  | full
  deriving DecidableEq, Repr

/-- Small letters, other than each other, that have one capital letter (Unicode 14). -/
def twinLetters : List (List Nat) :=
  [[0x69, 0x131], [0x73, 0x17F], [0xB5, 0x3BC], [0x345, 0x3B9, 0x1FBE], [0x390, 0x1FD3],
   [0x3B0, 0x1FE3], [0x3B2, 0x3D0], [0x3B5, 0x3F5], [0x3B8, 0x3D1], [0x3BA, 0x3F0],
   [0x3C0, 0x3D6], [0x3C1, 0x3F1], [0x3C2, 0x3C3], [0x3C6, 0x3D5], [0x432, 0x1C80],
   [0x434, 0x1C81], [0x43E, 0x1C82], [0x441, 0x1C83], [0x442, 0x1C84, 0x1C85], [0x44A, 0x1C86],
   [0x463, 0x1C87], [0x1C88, 0xA64B], [0x1E61, 0x1E9B], [0xFB05, 0xFB06]]

/-- Small letters of the same capital letter, the letter itself first. -/
def twins (n : Nat) : List Nat :=
  match twinLetters.find? fun g => g.contains n with
  | some g => n :: g.filter (· ≠ n)
  | none => [n]

/-- The runs of capital letters with the one that has a dot in its small form only. -/
def smallRuns : List (Nat × Nat × Nat × Int) := (0x130, 0x130, 1, -199) :: capitalRuns

def small (n : Nat) : Nat :=
  match smallRuns.find? fun (lo, hi, step, _) => lo ≤ n && n ≤ hi && (n - lo) % step == 0 with
  | some (_, _, _, distance) => (n + distance).toNat
  | none => n

def capitals (n : Nat) : List Nat :=
  (smallRuns.map fun (_, _, _, distance) => ((n : Int) - distance).toNat).filter fun c =>
    c ≠ n && small c == n

namespace CaseRule

/-- The code point that stands for a letter of any case. -/
def fold : CaseRule → Nat → Nat
  | exact, n => n
  | ascii, n => if 65 ≤ n ∧ n ≤ 90 then n + 32 else n
  | full, n => small n

/-- Code points that are the same as the given one. -/
def variants : CaseRule → Nat → List Nat
  | exact, n => [n]
  | ascii, n =>
    if 65 ≤ n ∧ n ≤ 90 then [n, n + 32] else if 97 ≤ n ∧ n ≤ 122 then [n, n - 32] else [n]
  | full, n => (twins (small n)).flatMap fun l => l :: capitals l

end CaseRule

end BundleGraph.Text
