/-! # Binary floating-point numbers

    Documents may hold numbers with a fraction or an exponent. They are read
    as binary floating-point numbers of 64 bits: 53 bits of precision and a
    range of about ten to the power 308. A number is kept as what it denotes,
    a whole number times a power of two, so that rounding is integer
    arithmetic: the nearest such number, and the even one of two that are
    equally near.
-/

namespace BundleGraph

inductive Binary64 where
  /-- The number ± mantissa · 2 ^ exponent. -/
  | finite (negative : Bool) (mantissa : Nat) (exponent : Int)
  /-- Larger than every finite number, or smaller. -/
  | infinite (negative : Bool)
  | notANumber
  deriving DecidableEq, Repr

namespace Binary64

/-! ### Rounding -/

/-- Quotient rounded to the nearest whole number, a half to the even neighbour. -/
def roundDiv (num den : Nat) : Nat :=
  let q := num / den
  let r := num % den
  if 2 * r < den then q
  else if den < 2 * r then q + 1
  else if q % 2 = 0 then q else q + 1

def leastExponent : Int := -1074

def greatestExponent : Int := 971

/-- `num / (den · 2 ^ e)` rounded to a whole number. -/
def scaleDown (num den : Nat) (e : Int) : Nat :=
  if 0 ≤ e then roundDiv num (den * Nat.pow 2 e.toNat)
  else roundDiv (num * Nat.pow 2 (-e).toNat) den

/-- `num / (den · 2 ^ e)` without its fraction. -/
def scaleFloor (num den : Nat) (e : Int) : Nat :=
  if 0 ≤ e then num / (den * Nat.pow 2 e.toNat) else num * Nat.pow 2 (-e).toNat / den

/-- The number nearest to a quotient of whole numbers. -/
def ofRatio (negative : Bool) (num den : Nat) : Binary64 :=
  if num = 0 then .finite negative 0 leastExponent
  else
    let guess : Int := max ((num.log2 : Int) - den.log2 - 53) leastExponent
    let exponent := if scaleFloor num den guess < Nat.pow 2 53 then guess else guess + 1
    let rounded := scaleDown num den exponent
    let (mantissa, exponent) :=
      if rounded = Nat.pow 2 53 then (Nat.pow 2 52, exponent + 1) else (rounded, exponent)
    if greatestExponent < exponent then .infinite negative
    else .finite negative mantissa exponent

/-- The number nearest to ± digits · 10 ^ scale. Far outside the range of finite numbers the
    power of ten is not computed. -/
def ofDecimal (negative : Bool) (digits : Nat) (scale : Int) : Binary64 :=
  let magnitude : Int := (Nat.toDigits 10 digits).length + scale
  if digits = 0 || magnitude < -400 then .finite negative 0 leastExponent
  else if 400 < magnitude then .infinite negative
  else if 0 ≤ scale then ofRatio negative (digits * Nat.pow 10 scale.toNat) 1
  else ofRatio negative digits (Nat.pow 10 (-scale).toNat)

/-! ### Whole numbers -/

/-- The number as a fraction of whole numbers, its sign left out. -/
def ratio (mantissa : Nat) (exponent : Int) : Nat × Nat :=
  if 0 ≤ exponent then (mantissa * Nat.pow 2 exponent.toNat, 1)
  else (mantissa, Nat.pow 2 (-exponent).toNat)

/-- The whole number that a finite number is, if it is one. -/
def toInt? : Binary64 → Option Int
  | .finite negative mantissa exponent =>
    let (num, den) := ratio mantissa exponent
    if num % den = 0 then
      let n : Int := ((num / den : Nat) : Int)
      some (if negative then -n else n)
    else none
  | _ => none

def isFinite : Binary64 → Bool
  | .finite .. => true
  | _ => false

def isZero : Binary64 → Bool
  | .finite _ mantissa _ => mantissa == 0
  | _ => false

end Binary64

end BundleGraph
