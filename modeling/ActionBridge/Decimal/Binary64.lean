/-!
# Binary64 numbers

A finite number is a significand times a power of two, with a sign of its own so that
both zeros exist. A quotient of natural numbers is rounded to the nearest such number,
and a quotient halfway between two of them to the one with the even significand.
-/
namespace ActionBridge

/-- A number of the format binary64. -/
inductive Binary64 where
  /-- the number `significand · 2 ^ exponent`, negated if `negative` -/
  | finite (negative : Bool) (significand : Nat) (exponent : Int)
  | infinite (negative : Bool)
  | nan
  deriving Repr, DecidableEq, Inhabited

namespace Binary64

/-! ## Limits of the format -/

/-- The least exponent of a finite number. -/
def minExponent : Int := -1074

/-- The greatest exponent of a finite number. -/
def maxExponent : Int := 971

/-- Significands stay below this bound. -/
def significandBound : Nat := Nat.pow 2 53

/-- The zero of the given sign. -/
def zero (negative : Bool) : Binary64 := .finite negative 0 minExponent

def isFinite : Binary64 → Bool
  | .finite .. => true
  | _ => false

/-! ## Rounding -/

/-- A fraction with the positive power `base ^ power` multiplied onto its denominator,
    or the negative power onto its numerator. -/
def scaleDown (base : Nat) (num den : Nat) (power : Int) : Nat × Nat :=
  if 0 ≤ power then (num, den * Nat.pow base power.toNat)
  else (num * Nat.pow base (-power).toNat, den)

/-- The natural number nearest to `num / den`, the even one of two equally near. -/
def roundHalfEven (num den : Nat) : Nat :=
  let floor := num / den
  let twice := 2 * (num % den)
  if twice < den then floor
  else if twice = den then floor + floor % 2
  else floor + 1

/-- The exponent at which the significand of `num / den` has 53 bits, or the least
    exponent if that is greater. -/
def exponentOf (num den : Nat) : Int :=
  let guess : Int := (num.log2 : Int) - (den.log2 : Int) - 52
  let (n, d) := scaleDown 2 num den guess
  max (if n < Nat.pow 2 52 * d then guess - 1 else guess) minExponent

/-- The binary64 number nearest to `num / den`. -/
def ofRatio (negative : Bool) (num den : Nat) : Binary64 :=
  if num = 0 then zero negative
  else
    let exponent := exponentOf num den
    let (n, d) := scaleDown 2 num den exponent
    let significand := roundHalfEven n d
    let (significand, exponent) :=
      if significand = significandBound then (Nat.pow 2 52, exponent + 1) else (significand, exponent)
    if maxExponent < exponent then .infinite negative
    else .finite negative significand exponent

/-- The magnitude of a finite number as a fraction. -/
def toRatio (significand : Nat) (exponent : Int) : Nat × Nat :=
  scaleDown 2 significand 1 (-exponent)

/-- The binary64 number nearest to `coefficient · 10 ^ power`. Powers that put the number
    beyond every finite one, or below every positive one, are settled without computing
    them. -/
def ofDecimal (negative : Bool) (coefficient : Nat) (power : Int) : Binary64 :=
  if coefficient = 0 then zero negative
  else if 400 < power then .infinite negative
  else if power + coefficient.log2 / 3 + 1 < -400 then zero negative
  else
    let (num, den) := scaleDown 10 coefficient 1 (-power)
    ofRatio negative num den

end Binary64
end ActionBridge
