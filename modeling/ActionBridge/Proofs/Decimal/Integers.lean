import ActionBridge.Decimal.Notation
import ActionBridge.Proofs.Text.Splitting
import ActionBridge.Proofs.Text.Trimming

/-!
# Integers as texts

An integer of 64 bits is read back from the text that it is written as, and any other integer is
not read at all (`int64?_toString`).
-/
namespace ActionBridge.Decimal

/-! ## Digits -/

theorem ofDigits_toDigits (n : Nat) : ofDigits (Nat.toDigits 10 n) = n := by
  have same : ofDigits (Nat.toDigits 10 n) = Nat.ofDigitChars 10 (Nat.toDigits 10 n) 0 := by
    simp only [ofDigits, Nat.ofDigitChars, Nat.mul_comm]
  rw [same, Nat.ofDigitChars_ten_toDigits]

theorem isDigit_of_mem_toDigits {n : Nat} {c : Char} (member : c ∈ Nat.toDigits 10 n) :
    c.isDigit = true :=
  Nat.isDigit_of_mem_toDigits (by decide) (by decide) member

theorem digits_toDigits (n : Nat) : ∀ c ∈ Nat.toDigits 10 n, isDigit c = true := by
  intro c member
  have digit := isDigit_of_mem_toDigits member
  simpa [Char.isDigit, isDigit, Char.le_def] using digit

theorem natural?_toDigits (n : Nat) : natural? (Nat.toDigits 10 n) = some n := by
  have digits : (Nat.toDigits 10 n).all isDigit = true := List.all_eq_true.mpr (digits_toDigits n)
  rw [natural?, digits, ofDigits_toDigits]
  simp [Nat.toDigits_ne_nil]

theorem natural?_eq_some_iff {cs : List Char} {n : Nat} :
    natural? cs = some n ↔ cs ≠ [] ∧ (∀ c ∈ cs, isDigit c = true) ∧ ofDigits cs = n := by
  rw [natural?, Option.ite_none_right_eq_some, Bool.and_eq_true, decide_eq_true_iff, List.all_eq_true,
    Option.some.injEq, and_assoc]

/-- The texts of an unsigned number: digits, with a plus sign in front of them or without. -/
inductive Unsigned (n : Nat) : List Char → Prop
  | bare {ds : List Char} (some : ds ≠ []) (digits : ∀ c ∈ ds, isDigit c = true)
      (value : ofDigits ds = n) : Unsigned n ds
  | plus {ds : List Char} (some : ds ≠ []) (digits : ∀ c ∈ ds, isDigit c = true)
      (value : ofDigits ds = n) : Unsigned n ('+' :: ds)

theorem unsigned?_eq_some_iff {bits : Nat} {s : String} {n : Nat} :
    unsigned? bits s = some n ↔ Unsigned n s.toList ∧ n < Nat.pow 2 bits := by
  have bounded (ds : List Char) : ((natural? ds).bind fun n => if n < Nat.pow 2 bits then some n else none)
      = some n ↔ natural? ds = some n ∧ n < Nat.pow 2 bits := by
    cases natural? ds with
    | none => simp
    | some m =>
      rw [Option.bind_some, Option.ite_none_right_eq_some, Option.some.injEq, and_comm]
      exact and_congr_right fun same => same ▸ Iff.rfl
  rw [unsigned?, bounded]
  refine and_congr_left fun _ => ?_
  split
  · rename_i rest signed
    rw [signed, natural?_eq_some_iff]
    constructor
    · rintro ⟨some, digits, value⟩
      exact .plus some digits value
    · rintro (⟨-, digits, -⟩ | ⟨some, digits, value⟩)
      · exact absurd (digits '+' List.mem_cons_self) (by decide)
      · exact ⟨some, digits, value⟩
  · rename_i unsigned
    rw [natural?_eq_some_iff]
    constructor
    · rintro ⟨some, digits, value⟩
      exact .bare some digits value
    · intro writes
      generalize s.toList = cs at unsigned writes
      cases writes with
      | bare some digits value => exact ⟨some, digits, value⟩
      | plus => exact absurd rfl (unsigned _)

/-- Digits have no sign in front of them. -/
theorem signed_toDigits (n : Nat) : signed (Nat.toDigits 10 n) = (false, Nat.toDigits 10 n) := by
  have digits : ∀ c ∈ Nat.toDigits 10 n, c.isDigit = true := fun _ => isDigit_of_mem_toDigits
  cases written : Nat.toDigits 10 n with
  | nil => rfl
  | cons c cs =>
    rw [written] at digits
    have digit := digits c List.mem_cons_self
    have minus : c ≠ '-' := fun same => absurd digit (by rw [same]; decide)
    have plus : c ≠ '+' := fun same => absurd digit (by rw [same]; decide)
    simp [signed, minus, plus]

/-! ## Integers -/

/-- The characters of an integer: its digits, with a sign if it is negative. -/
theorem toList_toString (i : Int) :
    (toString i).toList
      = if i < 0 then '-' :: Nat.toDigits 10 i.natAbs else Nat.toDigits 10 i.natAbs := by
  cases i with
  | ofNat n => exact Nat.toList_repr
  | negSucc n =>
    have text : toString (Int.negSucc n) = "-" ++ (n + 1).repr := rfl
    rw [text, String.toList_append, Nat.toList_repr, if_pos (Int.negSucc_lt_zero n)]
    rfl

/-- An integer is read back from its text if it has 64 bits. -/
theorem int64?_toString (i : Int) :
    int64? (toString i) = if -Nat.pow 2 63 ≤ i ∧ i ≤ Nat.pow 2 63 - 1 then some i else none := by
  rw [int64?, integerWithin?, toList_toString]
  by_cases negative : i < 0
  · have value : -(i.natAbs : Int) = i := by omega
    simp only [negative, if_true, signed, natural?_toDigits, Option.bind_some, value]
  · have value : (i.natAbs : Int) = i := by omega
    simp only [negative, if_false, signed_toDigits, natural?_toDigits, Option.bind_some, value,
      Bool.false_eq_true]

/-! ## Space -/

/-- The text of an integer has no space around it. -/
theorem trim_toString (i : Int) : Text.trim (toString i) = toString i := by
  have digits : ∀ c ∈ Nat.toDigits 10 i.natAbs, Text.isBlank c = false := fun c member =>
    Text.isBlank_of_isAlphanum (Text.isAlphanum_iff.mpr (.inr (.inr (isDigit_of_mem_toDigits member))))
  refine Text.trim_eq_self fun c member => ?_
  rw [toList_toString] at member
  split at member
  · rcases List.mem_cons.mp member with rfl | digit
    · decide
    · exact digits c digit
  · exact digits c member

end ActionBridge.Decimal
