import ActionBridge.Decimal.Binary64

/-!
# Shortest decimal digits

The decimals that read back as a given binary64 number are those of an interval around it.
Of these the ones with the fewest digits are taken, and of those the nearest to the number;
two equally near ones are told apart by a stated preference.
-/
namespace ActionBridge.Binary64

/-- Which of two equally near decimals is taken. -/
inductive Tie where
  /-- the one whose last digit is even -/
  | even
  /-- the greater one -/
  | up
  deriving Repr, DecidableEq

/-- The reals that round to a number, as numerators over one denominator. The ends belong to
    the interval if `closed`. -/
structure Interval where
  low : Nat
  value : Nat
  high : Nat
  den : Nat
  closed : Bool
  deriving Repr, DecidableEq

/-- The interval of a positive finite number. Below a power of two the next number is only
    half as far away. -/
def intervalOf (significand : Nat) (exponent : Int) : Interval :=
  let below := if significand = Nat.pow 2 52 ∧ minExponent < exponent then 1 else 2
  let (unit, den) := toRatio 1 (exponent - 2)
  { low := (4 * significand - below) * unit
    value := 4 * significand * unit
    high := (4 * significand + 2) * unit
    den := den
    closed := significand % 2 == 0 }

/-- Whether the fraction `num / den` lies in the interval. -/
def Interval.contains (i : Interval) (num den : Nat) : Bool :=
  if i.closed then i.low * den ≤ num * i.den && num * i.den ≤ i.high * den
  else i.low * den < num * i.den && num * i.den < i.high * den

/-- The greatest `p` with `10 ^ p ≤ num / den`. The logarithm to base two bounds it up to one. -/
def leadingPower (num den : Nat) : Int :=
  let guess : Int := (((num.log2 : Int) - (den.log2 : Int)) * 30103) / 100000
  let reaches (p : Int) : Bool :=
    let (n, d) := scaleDown 10 num den p
    d ≤ n
  if reaches (guess + 1) then guess + 1
  else if reaches guess then guess
  else guess - 1

/-- The multiple of `10 ^ power` in the interval that is nearest to the number, if there is
    one: of all multiples only the two next to the number need be tried. -/
def nearestOnGrid (tie : Tie) (i : Interval) (power : Int) : Option Nat :=
  let (num, den) := scaleDown 10 i.value i.den power
  let floor := num / den
  let (unitNum, unitDen) := scaleDown 10 1 1 (-power)
  let inside (k : Nat) : Bool := i.contains (k * unitNum) unitDen
  let twice := 2 * (num % den)
  let preferUp : Bool :=
    if twice < den then false
    else if twice = den then
      match tie with
      | .even => floor % 2 == 1
      | .up => true
    else true
  match inside floor, inside (floor + 1) with
  | true, true => some (if preferUp then floor + 1 else floor)
  | true, false => some floor
  | false, true => some (floor + 1)
  | false, false => none

/-- The first grid with a hit, from the coarsest of the given number of grids on. -/
def firstHit (tie : Tie) (i : Interval) (power : Int) : Nat → Nat × Int
  | 0 => (0, power)
  | grids + 1 =>
    match nearestOnGrid tie i power with
    | some digits => (digits, power)
    | none => firstHit tie i (power - 1) grids

/-- A decimal without final zeros. The second argument bounds the number of zeros. -/
def dropZeros : Nat → Nat × Int → Nat × Int
  | 0, d => d
  | fuel + 1, (digits, power) =>
    if digits % 10 = 0 then dropZeros fuel (digits / 10, power + 1) else (digits, power)

/-- The shortest decimal `digits · 10 ^ power` that reads back as the positive number
    `significand · 2 ^ exponent`; seventeen digits always suffice. -/
def shortest (tie : Tie) (significand : Nat) (exponent : Int) : Nat × Int :=
  let i := intervalOf significand exponent
  dropZeros 17 (firstHit tie i (leadingPower i.value i.den) 17)

end ActionBridge.Binary64
