import ActionBridge.Json.Value

/-!
# JSON numbers

What a number of a JSON document means. Its digits are gathered into a significand of 64
bits; digits that no longer fit only count as places. A number without point and exponent
that fits is an integer, any other is the significand scaled by a power of ten, where the
scaling is rounded at each step.
-/
namespace ActionBridge.Json

/-- A number as it is written. -/
structure Numeral where
  negative : Bool
  /-- the digits before the point -/
  whole : List Char
  /-- the digits after the point, if there is one -/
  fraction : Option (List Char)
  /-- whether the exponent is negative, and its digits, if there is one -/
  power : Option (Bool × List Char)
  deriving Repr, DecidableEq

/-- The bound of significands. -/
def significandBound : Nat := Nat.pow 2 64

/-- The value of a digit. -/
def digitValue (c : Char) : Nat := c.toNat - '0'.toNat

/-- Extends a significand by digits as long as it fits, and gives the digits left over. -/
def gather (significand : Nat) : List Char → Nat × List Char
  | [] => (significand, [])
  | d :: ds =>
    let next := significand * 10 + digitValue d
    if next < significandBound then gather next ds else (significand, d :: ds)

/-- The magnitude of a finite number as a fraction. -/
def fractionOf : Binary64 → Nat × Nat
  | .finite _ significand exponent => Binary64.toRatio significand exponent
  | _ => (0, 1)

/-- The rounded product of two magnitudes. -/
def product (x y : Binary64) : Binary64 :=
  let (a, b) := fractionOf x
  let (c, d) := fractionOf y
  .ofRatio false (a * c) (b * d)

/-- The rounded quotient of two magnitudes. -/
def quotient (x y : Binary64) : Binary64 :=
  let (a, b) := fractionOf x
  let (c, d) := fractionOf y
  .ofRatio false (a * d) (b * c)

/-- The power of ten with the given exponent, rounded. -/
def powerOfTen (exponent : Nat) : Binary64 := .ofRatio false (Nat.pow 10 exponent) 1

/-- The magnitude `x · 10 ^ power`, or nothing beyond the finite numbers. Below `10 ^ -308`
    the number is brought down in steps of `10 ^ 308`, of which three reach zero. -/
def scale (x : Binary64) (power : Int) : (steps : Nat) → Option Binary64
  | 0 => some (.zero false)
  | steps + 1 =>
    if power.natAbs ≤ 308 then
      if 0 ≤ power then
        let y := product x (powerOfTen power.natAbs)
        if y.isFinite then some y else none
      else some (quotient x (powerOfTen power.natAbs))
    else if (fractionOf x).1 = 0 then some x
    else if 0 ≤ power then none
    else scale (quotient x (powerOfTen 308)) (power + 308) steps

/-- The number with the sign `negative` and the magnitude of `x`. -/
def withSign (negative : Bool) : Binary64 → Binary64
  | .finite _ significand exponent => .finite negative significand exponent
  | .infinite _ => .infinite negative
  | .nan => .nan

/-- The value of a significand times a power of ten. -/
def realOf (negative : Bool) (significand : Nat) (power : Int) : Option Json :=
  (scale (.ofRatio false significand 1) power 4).map fun x => .real (withSign negative x)

/-- An exponent beyond 32 bits makes zero of a number, or too great a number. -/
def exponentBound : Nat := Nat.pow 2 31

/-- The least and the greatest exponent that is taken into account. -/
def clamp (i : Int) : Int :=
  max (-Nat.pow 2 31) (min i (Nat.pow 2 31 - 1))

/-- The value of a number, unless it is too great. -/
def Numeral.value (n : Numeral) : Option Json :=
  let (significand, left) := gather 0 n.whole
  if left.isEmpty && n.fraction.isNone && n.power.isNone then
    if !n.negative then some (.integer significand)
    else if 1 ≤ significand ∧ significand ≤ Nat.pow 2 63 then some (.integer (-(significand : Int)))
    else realOf true significand 0
  else
    let fraction := n.fraction.getD []
    let (significand, dropped) := gather significand fraction
    let places : Int := (left.length : Int) - (fraction.length - dropped.length)
    match n.power with
    | none => realOf n.negative significand places
    | some (negativePower, ds) =>
      let power := Decimal.ofDigits ds
      if exponentBound ≤ power then
        if significand ≠ 0 && !negativePower then none
        else some (.real (.zero n.negative))
      else
        let power : Int := if negativePower then -(power : Int) else power
        realOf n.negative significand (clamp (places + power))

end ActionBridge.Json
