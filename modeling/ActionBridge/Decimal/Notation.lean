import ActionBridge.Decimal.Shortest
import ActionBridge.Text.Blank

/-!
# Written numbers

How integers and binary64 numbers are read from text and written as text. A real number is
written with its shortest digits; a layout says where positional notation ends, whether a
whole number shows a fraction, and how ties of the digits are settled.
-/
namespace ActionBridge.Decimal

/-! ## Digits -/

/-- The value of a decimal digit. -/
def digit? (c : Char) : Option Nat :=
  if '0' ≤ c && c ≤ '9' then some (c.toNat - '0'.toNat) else none

def isDigit (c : Char) : Bool :=
  '0' ≤ c && c ≤ '9'

/-- The number that a list of digits writes. -/
def ofDigits (ds : List Char) : Nat :=
  ds.foldl (fun n c => n * 10 + (c.toNat - '0'.toNat)) 0

/-- The number that a non-empty list of digits writes. -/
def natural? (cs : List Char) : Option Nat :=
  if cs ≠ [] && cs.all isDigit then some (ofDigits cs) else none

/-- The sign that begins a text, and the rest. -/
def signed : List Char → Bool × List Char
  | '-' :: rest => (true, rest)
  | '+' :: rest => (false, rest)
  | cs => (false, cs)

/-! ## Integers -/

/-- The integer of a text with an optional sign, within the given bounds. -/
def integerWithin? (low high : Int) (cs : List Char) : Option Int :=
  let (negative, ds) := signed cs
  (natural? ds).bind fun n =>
    let i : Int := if negative then -(n : Int) else n
    if low ≤ i ∧ i ≤ high then some i else none

/-- The signed integer of 64 bits that a text writes. -/
def int64? (s : String) : Option Int :=
  integerWithin? (-Nat.pow 2 63) (Nat.pow 2 63 - 1) s.toList

/-- The unsigned integer of the given number of bits that a text writes; a plus sign may
    begin it. -/
def unsigned? (bits : Nat) (s : String) : Option Nat :=
  let ds := match s.toList with
    | '+' :: rest => rest
    | cs => cs
  (natural? ds).bind fun n => if n < Nat.pow 2 bits then some n else none

/-! ## Reading real numbers -/

/-- The integer of an exponent: digits with an optional sign. -/
def exponent? (cs : List Char) : Option Int :=
  let (negative, ds) := signed cs
  (natural? ds).map fun n => if negative then -(n : Int) else n

/-- The digits before and after the point, of which there is at least one, and the exponent. -/
def magnitude? (cs : List Char) : Option (Nat × Int) :=
  let whole := cs.takeWhile isDigit
  let rest := cs.dropWhile isDigit
  let (fraction, rest) : List Char × List Char := match rest with
    | '.' :: after => (after.takeWhile isDigit, after.dropWhile isDigit)
    | _ => ([], rest)
  if whole.isEmpty && fraction.isEmpty then none
  else
    let coefficient := ofDigits (whole ++ fraction)
    match rest with
    | [] => some (coefficient, -(fraction.length : Int))
    | e :: power =>
      if e == 'e' || e == 'E' then
        (exponent? power).map fun p => (coefficient, p - fraction.length)
      else none

/-- The number that a text writes: digits with an optional point and exponent, or the word
    `inf`, `infinity` or `nan` in any letter case, after an optional sign. -/
def real? (s : String) : Option Binary64 :=
  let (negative, cs) := signed s.toList
  let word := Text.lower (String.ofList cs)
  if word == "inf" || word == "infinity" then some (.infinite negative)
  else if word == "nan" then some .nan
  else (magnitude? cs).map fun (coefficient, power) => .ofDecimal negative coefficient power

/-! ## Writing real numbers -/

/-- How a finite number is laid out. -/
structure Layout where
  /-- whether a number whose first digit stands for `10 ^ p` is written without an exponent -/
  positional : (p : Int) → Bool
  /-- what follows a whole number in positional notation -/
  wholeMark : String
  /-- which of two equally near decimals is written -/
  tie : Binary64.Tie

/-- Numbers in messages: never an exponent, whole numbers without a point, and of two equally
    near decimals the greater. -/
def plain : Layout := ⟨fun _ => true, "", .up⟩

/-- Numbers in JSON: positional from `10 ^ -5` to below `10 ^ 16`, always with a point or an
    exponent, and of two equally near decimals the even one. -/
def json : Layout := ⟨fun p => -5 ≤ p && p < 16, ".0", .even⟩

/-- The given number of zeros. -/
def zeros (n : Int) : String := String.ofList (List.replicate n.toNat '0')

/-- The digits `ds` with `ds.length + power` of them before the point. -/
def Layout.positionally (l : Layout) (ds : List Char) (power : Int) : String :=
  let point : Int := ds.length + power
  if 0 ≤ power then String.ofList ds ++ zeros power ++ l.wholeMark
  else if 0 < point then
    String.ofList (ds.take point.toNat) ++ "." ++ String.ofList (ds.drop point.toNat)
  else "0." ++ zeros (-point) ++ String.ofList ds

/-- The digits `ds` with the point after the first and a signed exponent. -/
def scientific (ds : List Char) (first : Int) : String :=
  let fraction := ds.drop 1
  String.ofList (ds.take 1)
    ++ (if fraction.isEmpty then "" else "." ++ String.ofList fraction)
    ++ "e" ++ (if first < 0 then "-" else "+") ++ toString first.natAbs

/-- The text of a finite magnitude. -/
def Layout.magnitude (l : Layout) (significand : Nat) (exponent : Int) : String :=
  if significand = 0 then "0" ++ l.wholeMark
  else
    let (digits, power) := Binary64.shortest l.tie significand exponent
    let ds := (toString digits).toList
    let first := ds.length + power - 1
    if l.positional first then l.positionally ds power else scientific ds first

/-- The text of a number. -/
def Layout.write (l : Layout) : Binary64 → String
  | .finite negative significand exponent =>
    (if negative then "-" else "") ++ l.magnitude significand exponent
  | .infinite negative => if negative then "-inf" else "inf"
  | .nan => "NaN"

end ActionBridge.Decimal
