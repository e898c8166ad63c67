import ActionBridge.Proofs.Decimal.Integers
import Mathlib.Tactic.Ring

/-!
# Digits

The number that digits write is less than the power of ten of their count, and digits behind it move it
up by as many places. No zero is in front of the digits of a number, but for that of zero itself.
-/
namespace ActionBridge.Decimal

section Numbers

variable {ds es : List Char}

theorem foldl_digits (n : Nat) (ds : List Char) :
    ds.foldl (fun n c => n * 10 + (c.toNat - '0'.toNat)) n = n * 10 ^ ds.length + ofDigits ds := by
  induction ds generalizing n with
  | nil => simp [ofDigits]
  | cons d ds ih =>
    have first := ih (d.toNat - '0'.toNat)
    rw [ofDigits, List.foldl_cons, List.foldl_cons, ih, List.length_cons, Nat.zero_mul, Nat.zero_add, first]
    ring

theorem ofDigits_append (ds es : List Char) :
    ofDigits (ds ++ es) = ofDigits ds * 10 ^ es.length + ofDigits es := by
  rw [ofDigits, List.foldl_append, foldl_digits]
  rfl

theorem ofDigits_cons (d : Char) (ds : List Char) :
    ofDigits (d :: ds) = (d.toNat - '0'.toNat) * 10 ^ ds.length + ofDigits ds := by
  rw [← List.singleton_append, ofDigits_append]
  simp [ofDigits]

theorem digit_le {c : Char} (digit : isDigit c = true) : c.toNat - '0'.toNat ≤ 9 := by
  simp only [isDigit, Bool.and_eq_true, decide_eq_true_eq, Char.le_def, UInt32.le_iff_toNat_le] at digit
  have nine : '9'.val.toNat = 57 := rfl
  have zero : '0'.toNat = 48 := rfl
  have same : c.toNat = c.val.toNat := rfl
  omega

theorem ofDigits_lt (digits : ∀ c ∈ ds, isDigit c = true) : ofDigits ds < 10 ^ ds.length := by
  induction ds with
  | nil => exact Nat.one_pos
  | cons d ds ih =>
    obtain ⟨digit, later⟩ := List.forall_mem_cons.mp digits
    have here := Nat.mul_le_mul_right (10 ^ ds.length) (digit_le digit)
    have rest := ih later
    rw [ofDigits_cons, List.length_cons, Nat.pow_succ]
    omega

theorem ofDigits_replicate_zero (n : Nat) : ofDigits (List.replicate n '0') = 0 := by
  induction n with
  | zero => rfl
  | succ n ih => rw [List.replicate_succ, ofDigits_cons, ih]; simp

end Numbers

/-- The digits of a positive number do not begin with a zero. -/
theorem head?_toDigits {n : Nat} (pos : 0 < n) : (Nat.toDigits 10 n).head? ≠ some '0' := by
  intro zero
  obtain ⟨ds, digits⟩ := List.head?_eq_some_iff.mp zero
  have value := ofDigits_toDigits n
  have below := ofDigits_lt fun c member => digits_toDigits n c (digits ▸ List.mem_cons_of_mem _ member)
  rw [digits, ofDigits_cons] at value
  have small : n < 10 ^ ds.length := by
    rw [← value]
    simpa using below
  by_cases none : ds.length = 0
  · rw [none] at small
    omega
  · have short := (Nat.length_toDigits_le_iff (by decide) (Nat.pos_of_ne_zero none)).mpr small
    rw [digits, List.length_cons] at short
    omega

end ActionBridge.Decimal
