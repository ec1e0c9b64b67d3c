import BundleGraph.Number.Binary64

/-! # Shortest decimal text

    A floating-point number is shown by the fewest decimal digits that read
    back as the same number, and the nearest such digits if there are several.
    Numbers from 0.0001 up to 10 ^ 16 are written with a point, and others
    with an exponent that has a sign and at least two digits.
-/

namespace BundleGraph.Binary64

/-- Decimal digits with the power of ten in front of which the point stands: the digits
    `d₁ d₂ …` and the place `p` denote `0.d₁d₂… · 10 ^ p`. -/
structure Decimal where
  /-- Digits as one whole number. -/
  digits : Nat
  /-- Number of digits before the point. -/
  place : Int
  deriving DecidableEq, Repr

/-- Digits and scale, `d · 10 ^ s`, that lie next to `num / den` on the grid of step `10 ^ s`,
    below it and above it. -/
def neighbours (num den : Nat) (scale : Int) : Nat × Nat :=
  let below :=
    if 0 ≤ scale then num / (den * Nat.pow 10 scale.toNat)
    else num * Nat.pow 10 (-scale).toNat / den
  (below, below + 1)

/-- Whether the digits below are at least as near to `num / den` as the digits above. -/
def belowIsNearer (num den below : Nat) (scale : Int) : Bool :=
  if 0 ≤ scale then
    let step := den * Nat.pow 10 scale.toNat
    let rest := num - below * step
    2 * rest < step || (2 * rest == step && below % 2 == 0)
  else
    let wide := num * Nat.pow 10 (-scale).toNat
    let rest := wide - below * den
    2 * rest < den || (2 * rest == den && below % 2 == 0)

/-- The number of decimal digits before the point of `num / den`; zero or less if it is below
    one tenth. -/
def decimalPlace (num den : Nat) : Int :=
  if den ≤ num then (Nat.toDigits 10 (num / den)).length
  else
    -- The quotient `den / num` has as many digits as there are places to move.
    let k := (Nat.toDigits 10 (den / num)).length
    if num * Nat.pow 10 (k - 1) = den then 2 - (k : Int) else 1 - (k : Int)

/-- The shortest digits that read back, tried from `n` digits up, at most `left` times. -/
def shortestFrom (mantissa : Nat) (exponent : Int) (num den : Nat) (place : Int) :
    Nat → Nat → Decimal
  | _, 0 => ⟨mantissa, place⟩
  | n, left + 1 =>
    let scale := place - n
    let (below, above) := neighbours num den scale
    let reads (d : Nat) : Bool := ofDecimal false d scale == .finite false mantissa exponent
    let done (d : Nat) : Decimal := ⟨d, scale + (Nat.toDigits 10 d).length⟩
    match reads below, reads above with
    | true, true => done (if belowIsNearer num den below scale then below else above)
    | true, false => done below
    | false, true => done above
    | false, false => shortestFrom mantissa exponent num den place (n + 1) left

/-- The fewest digits that read back as the number; seventeen always do. -/
def shortest (mantissa : Nat) (exponent : Int) : Decimal :=
  let (num, den) := ratio mantissa exponent
  shortestFrom mantissa exponent num den (decimalPlace num den) 1 18

def trimZeros (digits : List Char) : List Char :=
  (digits.reverse.dropWhile (· == '0')).reverse

def positional (digits : List Char) (place : Int) : List Char :=
  if place ≤ 0 then '0' :: '.' :: List.replicate (-place).toNat '0' ++ digits
  else
    let whole := digits.take place.toNat
    let fraction := digits.drop place.toNat
    whole ++ List.replicate (place.toNat - whole.length) '0' ++ '.' ::
      (if fraction.isEmpty then ['0'] else fraction)

/-- Digits with a point after the first and an exponent. -/
def scientific (digits : List Char) (place : Int) : List Char :=
  let exponent := place - 1
  let size := Nat.toDigits 10 exponent.natAbs
  digits.take 1 ++ (if digits.length ≤ 1 then [] else '.' :: digits.drop 1) ++ 'e' ::
    (if exponent < 0 then '-' else '+') :: List.replicate (2 - size.length) '0' ++ size

def text : Binary64 → String
  | .notANumber => "nan"
  | .infinite negative => if negative then "-inf" else "inf"
  | .finite negative mantissa exponent =>
    let sign := if negative then ['-'] else []
    String.ofList <| sign ++
      if mantissa = 0 then ['0', '.', '0']
      else
        let decimal := shortest mantissa exponent
        let digits := trimZeros (Nat.toDigits 10 decimal.digits)
        if -4 < decimal.place ∧ decimal.place ≤ 16 then positional digits decimal.place
        else scientific digits decimal.place

end BundleGraph.Binary64
