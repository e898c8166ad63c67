import ActionBridge.Proofs.Decimal.Digits
import ActionBridge.Proofs.Json.Strings
import Mathlib.Tactic.Positivity

/-!
# JSON numbers as written

A number is written by its sign, its whole part, its fraction and its exponent, of which the last two
may be missing. It is read back as these parts if nothing follows that could belong to it
(`readNumeral_chars`). An integer means itself; any other number means its digits, scaled by the
exponent and the places behind the point (`Numeral.value_of_fits`).
-/
namespace ActionBridge.Json
open Decimal

/-! ## Writing -/

def fractionChars : Option (List Char) → List Char
  | none => []
  | some ds => '.' :: ds

/-- An exponent always has a sign. -/
def powerChars : Option (Bool × List Char) → List Char
  | none => []
  | some (negative, ds) => 'e' :: (if negative then '-' else '+') :: ds

/-- The characters of a number. -/
def Numeral.chars (n : Numeral) : List Char :=
  (if n.negative then ['-'] else []) ++ (n.whole ++ (fractionChars n.fraction ++ powerChars n.power))

/-- There is a digit, and nothing but digits. -/
structure Digits (ds : List Char) : Prop where
  some : ds ≠ []
  digits : ∀ c ∈ ds, isDigit c = true

/-- The parts of a number are digits, and no zero is in front of others. -/
structure Numeral.Formed (n : Numeral) : Prop where
  whole : Digits n.whole
  leading : n.whole = ['0'] ∨ n.whole.head? ≠ some '0'
  fraction : ∀ ds, n.fraction = some ds → Digits ds
  power : ∀ p, n.power = some p → Digits p.2

/-! ## What follows -/

/-- Digits are not continued by what follows. -/
def DigitsEnd (rest : List Symbol) : Prop := ∀ c more, rest = some c :: more → isDigit c = false

/-- A number is not continued by what follows. -/
def Ends (rest : List Symbol) : Prop :=
  ∀ c more, rest = some c :: more → isDigit c = false ∧ c ≠ '.' ∧ c ≠ 'e' ∧ c ≠ 'E'

section Parts

variable {ds : List Char} {rest : List Symbol}

theorem Ends.digitsEnd (ends : Ends rest) : DigitsEnd rest := fun c more same => (ends c more same).1

theorem digitsEnd_cons {c : Char} (other : isDigit c = false) : DigitsEnd (some c :: rest) := by
  intro d more same
  obtain rfl := Option.some.inj (List.cons.inj same).1
  exact other

theorem digitsEnd_powerChars (power : Option (Bool × List Char)) (ends : Ends rest) :
    DigitsEnd (symbolsOf (powerChars power) ++ rest) := by
  cases power with
  | none => exact ends.digitsEnd
  | some p => exact digitsEnd_cons (by decide)

theorem digitsEnd_fractionChars (fraction : Option (List Char)) (ends : DigitsEnd rest) :
    DigitsEnd (symbolsOf (fractionChars fraction) ++ rest) := by
  cases fraction with
  | none => exact ends
  | some ds => exact digitsEnd_cons (by decide)

/-! ## Reading -/

theorem readDigits_append (digits : ∀ c ∈ ds, isDigit c = true) (ends : DigitsEnd rest) :
    readDigits (symbolsOf ds ++ rest) = (ds, rest) := by
  induction ds with
  | nil =>
    rcases rest with - | ⟨- | c, more⟩
    · rfl
    · rfl
    · show readDigits (some c :: more) = _
      simp [readDigits, ends c more rfl]
  | cons c ds ih =>
    obtain ⟨digit, later⟩ := List.forall_mem_cons.mp digits
    rw [symbolsOf_cons, List.cons_append, readDigits, if_pos digit, ih later]

theorem readWhole_append (formed : Digits ds) (leading : ds = ['0'] ∨ ds.head? ≠ some '0')
    (ends : DigitsEnd rest) : readWhole (symbolsOf ds ++ rest) = some (ds, rest) := by
  rcases leading with rfl | leading
  · rfl
  · rw [readWhole, readDigits_append formed.digits ends]
    · simp [formed.some]
    · intro more zero
      obtain ⟨c, cs, rfl⟩ := List.exists_cons_of_ne_nil formed.some
      obtain rfl := Option.some.inj (List.cons.inj zero).1
      exact leading rfl

theorem readFraction_append {fraction : Option (List Char)}
    (formed : ∀ ds, fraction = some ds → Digits ds) (ends : DigitsEnd rest)
    (other : ∀ more, rest ≠ some '.' :: more) :
    readFraction (symbolsOf (fractionChars fraction) ++ rest) = some (fraction, rest) := by
  cases fraction with
  | none =>
    show readFraction rest = _
    rw [readFraction]
    exact other
  | some ds =>
    rw [fractionChars, symbolsOf_cons, List.cons_append, readFraction,
      readDigits_append (formed ds rfl).digits ends]
    simp [(formed ds rfl).some]

theorem readPower_append {power : Option (Bool × List Char)} (formed : ∀ p, power = some p → Digits p.2)
    (ends : Ends rest) : readPower (symbolsOf (powerChars power) ++ rest) = some (power, rest) := by
  cases power with
  | none =>
    show readPower rest = _
    unfold readPower
    split
    · rename_i c more
      obtain ⟨-, -, small, great⟩ := ends c more rfl
      simp [small, great]
    · rfl
  | some p =>
    obtain ⟨negative, ds⟩ := p
    have digits : readPowerDigits negative (symbolsOf ds ++ rest) = some (some (negative, ds), rest) := by
      rw [readPowerDigits, readDigits_append (formed _ rfl).digits ends.digitsEnd]
      simp [(formed _ rfl).some]
    cases negative <;> exact digits

end Parts

theorem readNumeral_sign (negative : Bool) {body : List Symbol}
    (unsigned : ∀ more, body ≠ some '-' :: more) :
    readNumeral (symbolsOf (if negative then ['-'] else []) ++ body)
      = (readWhole body).bind fun whole => (readFraction whole.2).bind fun fraction =>
          (readPower fraction.2).bind fun power =>
            some (⟨negative, whole.1, fraction.1, power.1⟩, power.2) := by
  cases negative with
  | true => rfl
  | false =>
    show readNumeral body = _
    rw [readNumeral]
    · rfl
    · exact unsigned

/-- A number is read back from its characters. -/
theorem readNumeral_chars {n : Numeral} (formed : n.Formed) {rest : List Symbol} (ends : Ends rest) :
    readNumeral (symbolsOf n.chars ++ rest) = some (n, rest) := by
  have behind := digitsEnd_powerChars n.power ends
  have pointless : ∀ more, symbolsOf (powerChars n.power) ++ rest ≠ some '.' :: more := by
    cases n.power with
    | none => exact fun more same => (ends '.' more same).2.1 rfl
    | some p => exact fun more => nofun
  have unsigned : ∀ more, symbolsOf n.whole ++ (symbolsOf (fractionChars n.fraction)
      ++ (symbolsOf (powerChars n.power) ++ rest)) ≠ some '-' :: more := by
    intro more same
    obtain ⟨c, cs, begins⟩ := List.exists_cons_of_ne_nil formed.whole.some
    rw [begins, symbolsOf_cons] at same
    obtain rfl := Option.some.inj (List.cons.inj same).1
    exact absurd (formed.whole.digits '-' (begins ▸ List.mem_cons_self)) (by decide)
  rw [Numeral.chars, symbolsOf_append, symbolsOf_append, symbolsOf_append, List.append_assoc,
    List.append_assoc, List.append_assoc, readNumeral_sign n.negative unsigned,
    readWhole_append formed.whole formed.leading (digitsEnd_fractionChars n.fraction behind),
    Option.bind_some, readFraction_append formed.fraction behind pointless, Option.bind_some,
    readPower_append formed.power ends, Option.bind_some]

/-! ## Meaning -/

theorem gather_of_lt {significand : Nat} {ds : List Char}
    (fits : significand * 10 ^ ds.length + ofDigits ds < significandBound) :
    gather significand ds = (significand * 10 ^ ds.length + ofDigits ds, []) := by
  induction ds generalizing significand with
  | nil => simp [gather, ofDigits]
  | cons d ds ih =>
    have whole : significand * 10 ^ (d :: ds).length + ofDigits (d :: ds)
        = (significand * 10 + digitValue d) * 10 ^ ds.length + ofDigits ds := by
      rw [ofDigits_cons, List.length_cons, digitValue]
      ring
    have next_le : significand * 10 + digitValue d
        ≤ (significand * 10 + digitValue d) * 10 ^ ds.length := Nat.le_mul_of_pos_right _ (by positivity)
    rw [whole] at fits ⊢
    rw [gather, if_pos (by omega), ih fits]

/-- An integer as it is written. -/
def numeralOf (i : Int) : Numeral := ⟨decide (i < 0), Nat.toDigits 10 i.natAbs, none, none⟩

theorem formed_numeralOf (i : Int) : (numeralOf i).Formed where
  whole := ⟨Nat.toDigits_ne_nil, digits_toDigits _⟩
  leading := by
    rcases Nat.eq_zero_or_pos i.natAbs with zero | pos
    · exact .inl (by rw [numeralOf, zero]; rfl)
    · exact .inr (head?_toDigits pos)
  fraction := nofun
  power := nofun

theorem chars_numeralOf (i : Int) : (numeralOf i).chars = (toString i).toList := by
  rw [toList_toString, Numeral.chars, numeralOf]
  by_cases negative : i < 0 <;> simp [negative, fractionChars, powerChars]

theorem value_numeralOf {i : Int} (low : -2 ^ 63 ≤ i) (high : i < 2 ^ 63) :
    (numeralOf i).value = some (.integer i) := by
  have bound : significandBound = 2 ^ 64 := rfl
  have limit : Nat.pow 2 63 = 2 ^ 63 := rfl
  have gathered : gather 0 (Nat.toDigits 10 i.natAbs) = (i.natAbs, []) := by
    have value := ofDigits_toDigits i.natAbs
    rw [gather_of_lt (by omega), value, Nat.zero_mul, Nat.zero_add]
  rw [Numeral.value, numeralOf]
  by_cases negative : i < 0
  · have fits : 1 ≤ i.natAbs ∧ i.natAbs ≤ Nat.pow 2 63 := by omega
    have value : -(i.natAbs : Int) = i := by omega
    simp only [gathered, List.isEmpty_nil, Option.isNone_none, Bool.and_self, if_true, negative,
      decide_true, Bool.not_true, Bool.false_eq_true, if_false, if_pos fits, value]
  · have value : (i.natAbs : Int) = i := by omega
    simp only [gathered, List.isEmpty_nil, Option.isNone_none, Bool.and_self, if_true, negative,
      decide_false, Bool.not_false, value]

/-- All digits of a number. -/
def Numeral.digits (n : Numeral) : List Char := n.whole ++ n.fraction.getD []

/-- The exponent that a number is written with. -/
def writtenPower : Option (Bool × List Char) → Int
  | none => 0
  | some (negative, ds) => if negative then -(ofDigits ds : Int) else ofDigits ds

theorem clamp_eq_self {i : Int} (low : -2 ^ 31 ≤ i) (high : i < 2 ^ 31) : clamp i = i := by
  have bound : ((Nat.pow 2 31 : Nat) : Int) = 2 ^ 31 := rfl
  rw [clamp, bound]
  omega

/-- A number with a point or an exponent, whose digits all fit into the significand. -/
theorem Numeral.value_of_fits (n : Numeral) (real : n.fraction ≠ none ∨ n.power ≠ none)
    (fits : ofDigits n.digits < significandBound) (short : (n.fraction.getD []).length < 2 ^ 30)
    (near : (writtenPower n.power).natAbs < 2 ^ 30) :
    n.value = realOf n.negative (ofDigits n.digits)
      (writtenPower n.power - (n.fraction.getD []).length) := by
  obtain ⟨negative, whole, fraction, power⟩ := n
  dsimp only [Numeral.digits] at *
  have digits := ofDigits_append whole (fraction.getD [])
  have le : ofDigits whole ≤ ofDigits whole * 10 ^ (fraction.getD []).length :=
    Nat.le_mul_of_pos_right _ (by positivity)
  have gathered : gather 0 whole = (ofDigits whole, []) := by
    rw [gather_of_lt (by omega), Nat.zero_mul, Nat.zero_add]
  have gathered' : gather (ofDigits whole) (fraction.getD []) = (ofDigits (whole ++ fraction.getD []), []) := by
    rw [gather_of_lt (by omega), digits]
  have general : (([] : List Char).isEmpty && fraction.isNone && power.isNone) = false := by
    cases fraction <;> cases power <;> simp_all
  rw [Numeral.value]
  simp only [gathered, gathered', general, Bool.false_eq_true, if_false, List.length_nil]
  cases power with
  | none => simp [writtenPower]
  | some p =>
    obtain ⟨down, ds⟩ := p
    have small : ofDigits ds < 2 ^ 30 := by
      cases down <;> simpa [writtenPower] using near
    have bound : ¬ exponentBound ≤ ofDigits ds := by
      have value : exponentBound = 2 ^ 31 := rfl
      omega
    have places : ((0 : Nat) : Int) - ((fraction.getD []).length - (0 : Nat))
        + (if down = true then -(ofDigits ds : Int) else ofDigits ds)
        = writtenPower (some (down, ds)) - (fraction.getD []).length := by
      rw [writtenPower]
      omega
    simp only [if_neg bound, places]
    rw [clamp_eq_self (by omega) (by omega)]

end ActionBridge.Json
