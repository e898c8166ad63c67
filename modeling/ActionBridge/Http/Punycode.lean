import ActionBridge.Text.Blank
import ActionBridge.Text.CodePoints

/-!
# Punycode

Names with characters beyond ASCII are written in ASCII: the characters of ASCII come first,
and behind the last hyphen digits in base 36 say which other characters go in between. The
numbers have digits of varying weight, and the weights follow the sizes of the numbers so far.
-/
namespace ActionBridge.Http.Punycode
open Text

/-! ## Numbers -/

/-- The value of a digit in base 36. -/
def digit? (c : Char) : Option Nat :=
  if 'a' ≤ c && c ≤ 'z' then some (c.toNat - 'a'.toNat)
  else if 'A' ≤ c && c ≤ 'Z' then some (c.toNat - 'A'.toNat)
  else if '0' ≤ c && c ≤ '9' then some (c.toNat - '0'.toNat + 26)
  else none

/-- From which value on a digit is followed by another one; `place` is the number of its place
    times 36. -/
def threshold (bias place : Nat) : Nat :=
  min 26 (max 1 (place - bias))

/-- A number from its digits, the first of which has the given place and weight, and the digits
    behind it. -/
def number? (bias : Nat) : (place weight sum : Nat) → List Char → Option (Nat × List Char)
  | _, _, _, [] => none
  | place, weight, sum, c :: cs => do
    let d ← digit? c
    let t := threshold bias place
    let sum := sum + d * weight
    if d < t then pure (sum, cs)
    else number? bias (place + 36) (weight * (36 - t)) sum cs

/-- The bias after a number, from the number brought to size. -/
def biasOf (place size : Nat) : Nat :=
  if _h : 455 < size then biasOf (place + 36) (size / 35)
  else place + 36 * size / (size + 38)
termination_by size
decreasing_by exact Nat.div_lt_self (by omega) (by omega)

/-- The bias after the number `n`, with which `count` characters are known. -/
def nextBias (n count : Nat) (isFirst : Bool) : Nat :=
  let size := if isFirst then n / 700 else n / 2
  biasOf 0 (size + size / count)

/-! ## Reading names -/

/-- The bias of the first number. -/
def firstBias : Nat := 72

/-- The first code beyond ASCII. -/
def firstCode : Nat := 128

/-- Puts the characters that digits stand for into a name, one after another: the last one so
    far had the code `code`, and `place` is the place behind it. There are no more of them than
    `fuel`. -/
def insertAll (bias code place : Nat) (isFirst : Bool) (name : List Char) :
    (fuel : Nat) → List Char → Option (List Char)
  | _, [] => some name
  | 0, _ :: _ => none
  | fuel + 1, digits => do
    let (n, rest) ← number? bias 36 1 0 digits
    let count := name.length + 1
    let code := code + (place + n) / count
    let place := (place + n) % count
    let c ← character? code
    insertAll (nextBias n count isFirst) code (place + 1) false (name.insertIdx place c) fuel rest

/-- The name that a text in ASCII stands for. A number takes at least one digit. -/
def decode? (cs : List Char) : Option (List Char) :=
  match splitLast '-' cs with
  | some (plain@(_ :: _), digits) =>
    insertAll firstBias firstCode 0 true plain digits.length digits
  | _ => insertAll firstBias firstCode 0 true [] cs.length cs

/-! ## Writing names -/

/-- The digit in base 36 of a number below it. -/
def digitOf (n : Nat) : Char :=
  if n < 26 then Char.ofNat ('a'.toNat + n) else Char.ofNat ('0'.toNat + (n - 26))

/-- The digits of a number, the first of which has the given place. -/
def digitsOf (bias place n : Nat) : List Char :=
  if _h : n < threshold bias place then [digitOf n]
  else
    let t := threshold bias place
    digitOf (t + (n - t) % (36 - t)) :: digitsOf bias (place + 36) ((n - t) / (36 - t))
termination_by n
decreasing_by
  have one_le : 1 ≤ threshold bias place := by unfold threshold; omega
  exact Nat.lt_of_le_of_lt (Nat.div_le_self _ _) (by omega)

/-- A name that is being written. -/
structure Draft where
  bias : Nat := firstBias
  /-- the number that counts the steps since the last character -/
  steps : Nat := 0
  /-- the code that is up next -/
  code : Nat := firstCode
  /-- how many characters are written -/
  count : Nat
  isFirst : Bool := true
  digits : List Char := []

/-- Passes a character of the name, or writes it if it has the code `code`. -/
def Draft.pass (code : Nat) (d : Draft) (c : Char) : Draft :=
  if c.toNat = code then
    { d with
      bias := nextBias d.steps (d.count + 1) d.isFirst
      steps := 0
      count := d.count + 1
      isFirst := false
      digits := d.digits ++ digitsOf d.bias 36 d.steps }
  else if c.toNat < code then { d with steps := d.steps + 1 }
  else d

/-- Writes all characters of the name that have the code `code`. -/
def Draft.writeAll (name : List Char) (d : Draft) (code : Nat) : Draft :=
  let d := { d with steps := d.steps + (code - d.code) * (d.count + 1) }
  let d := name.foldl (Draft.pass code) d
  { d with steps := d.steps + 1, code := code + 1 }

/-- The text in ASCII that stands for a name. -/
def encode (name : List Char) : List Char :=
  let plain := name.filter (·.toNat < firstCode)
  let codes := (name.map Char.toNat).filter (firstCode ≤ ·)
  let draft := (codes.mergeSort.eraseDups).foldl (Draft.writeAll name) { count := plain.length }
  plain ++ (if plain.isEmpty then [] else ['-']) ++ draft.digits

end ActionBridge.Http.Punycode
