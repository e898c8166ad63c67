import ActionBridge.Decimal.Binary64
import Mathlib.Algebra.Order.Field.Power
import Mathlib.Data.Rat.Cast.Order
import Mathlib.Tactic.FieldSimp
import Mathlib.Tactic.Linarith
import Mathlib.Tactic.Positivity
import Mathlib.Tactic.Ring

/-!
# Rounding

A quotient is rounded at an exponent at which its significand has 53 bits, or at the least one
(`takenAt_exponentOf`). So it stays at or below every number of the format that it does not exceed
(`exists_ofRatio_of_le`), and a quotient from one on grows by less than its part of `2 ^ -53`.
-/
namespace ActionBridge.Binary64

/-! ## Fractions -/

/-- The number that a numerator and a denominator stand for. -/
def quotientOf (f : Nat × Nat) : ℚ := f.1 / f.2

theorem quotientOf_scaleDown (base num den : Nat) (power : Int) :
    quotientOf (scaleDown base num den power) = num / den / (base : ℚ) ^ power := by
  rw [scaleDown]
  split
  · rename_i nonneg
    obtain ⟨n, rfl⟩ := Int.eq_ofNat_of_zero_le nonneg
    simp [quotientOf, div_div]
  · rename_i negative
    obtain ⟨n, rfl⟩ := Int.exists_eq_neg_ofNat (Int.le_of_lt (Int.not_le.mp negative))
    simp [quotientOf, div_mul_eq_mul_div]

theorem num_pos_of_quotient {num den : Nat} (pos : (0 : ℚ) < num / den) : 0 < num := by
  refine Nat.pos_of_ne_zero fun zero => ?_
  rw [zero, Nat.cast_zero, zero_div] at pos
  exact lt_irrefl _ pos

theorem quotientOf_toRatio (s : Nat) (e : Int) : quotientOf (toRatio s e) = s * 2 ^ e := by
  rw [toRatio, quotientOf_scaleDown, zpow_neg]
  simp

theorem scaleDown_snd_pos {base den : Nat} (base_pos : 0 < base) (den_pos : 0 < den) (num : Nat)
    (power : Int) : 0 < (scaleDown base num den power).2 := by
  rw [scaleDown]
  split
  · exact Nat.mul_pos den_pos (Nat.pow_pos base_pos)
  · exact den_pos

theorem toRatio_snd_pos (s : Nat) (e : Int) : 0 < (toRatio s e).2 :=
  scaleDown_snd_pos Nat.two_pos Nat.one_pos s (-e)

theorem two_pow_mul (n : Nat) (e : Int) : (2 : ℚ) ^ n * 2 ^ e = 2 ^ (n + e) := by
  rw [← zpow_natCast, ← zpow_add₀ two_ne_zero]

/-- Logarithms to base two tell a quotient up to a factor of two on either side. -/
theorem log2_quotient {num den : Nat} (num_pos : 0 < num) (den_pos : 0 < den) :
    (2 : ℚ) ^ ((num.log2 : Int) - den.log2 - 1) < num / den
      ∧ (num : ℚ) / den < 2 ^ ((num.log2 : Int) - den.log2 + 1) := by
  have num_low : ((2 ^ num.log2 : Nat) : ℚ) ≤ num := Nat.cast_le.mpr (Nat.log2_self_le num_pos.ne')
  have num_high : (num : ℚ) < (2 ^ (num.log2 + 1) : Nat) := Nat.cast_lt.mpr Nat.lt_log2_self
  have den_low : ((2 ^ den.log2 : Nat) : ℚ) ≤ den := Nat.cast_le.mpr (Nat.log2_self_le den_pos.ne')
  have den_high : (den : ℚ) < (2 ^ (den.log2 + 1) : Nat) := Nat.cast_lt.mpr Nat.lt_log2_self
  have den_pos' : (0 : ℚ) < den := Nat.cast_pos.mpr den_pos
  push_cast at num_low num_high den_low den_high
  constructor
  · rw [lt_div_iff₀ den_pos']
    calc (2 : ℚ) ^ ((num.log2 : Int) - den.log2 - 1) * den
        < 2 ^ ((num.log2 : Int) - den.log2 - 1) * 2 ^ (den.log2 + 1) := by gcongr
      _ = 2 ^ num.log2 := by
        rw [mul_comm, two_pow_mul, ← zpow_natCast]
        congr 1
        push_cast
        ring
      _ ≤ num := num_low
  · rw [div_lt_iff₀ den_pos']
    calc (num : ℚ) < 2 ^ (num.log2 + 1) := num_high
      _ = 2 ^ ((num.log2 : Int) - den.log2 + 1) * 2 ^ den.log2 := by
        rw [mul_comm, two_pow_mul, ← zpow_natCast]
        congr 1
        push_cast
        ring
      _ ≤ 2 ^ ((num.log2 : Int) - den.log2 + 1) * den := by gcongr

/-! ## The nearest multiple -/

theorem roundHalfEven_cases (num den : Nat) :
    (roundHalfEven num den = num / den ∧ 2 * (num % den) ≤ den)
      ∨ (roundHalfEven num den = num / den + 1 ∧ den ≤ 2 * (num % den)) := by
  unfold roundHalfEven
  dsimp only
  split_ifs with below tie
  · exact .inl ⟨rfl, by omega⟩
  · rcases Nat.mod_two_eq_zero_or_one (num / den) with even | odd
    · exact .inl ⟨by omega, by omega⟩
    · exact .inr ⟨by omega, by omega⟩
  · exact .inr ⟨rfl, by omega⟩

theorem roundHalfEven_near (num : Nat) {den : Nat} (den_pos : 0 < den) :
    (roundHalfEven num den : ℚ) ≤ num / den + 1 / 2 := by
  have den_pos' : (0 : ℚ) < den := Nat.cast_pos.mpr den_pos
  have parts : (den : ℚ) * (num / den : Nat) + (num % den : Nat) = num := by
    exact_mod_cast Nat.div_add_mod num den
  rw [div_add_div _ _ den_pos'.ne' two_ne_zero, le_div_iff₀ (by positivity)]
  rcases roundHalfEven_cases num den with ⟨rounded, -⟩ | ⟨rounded, half⟩
  · rw [rounded]
    have rest : (0 : ℚ) ≤ (num % den : Nat) := Nat.cast_nonneg _
    linarith
  · rw [rounded]
    have half' : (den : ℚ) ≤ 2 * (num % den : Nat) := by exact_mod_cast half
    push_cast
    linarith

theorem roundHalfEven_le {num den n : Nat} (den_pos : 0 < den) (le : (num : ℚ) / den ≤ n) :
    roundHalfEven num den ≤ n := by
  have den_pos' : (0 : ℚ) < den := Nat.cast_pos.mpr den_pos
  have whole : num ≤ n * den := by exact_mod_cast (div_le_iff₀ den_pos').mp le
  have floor : num / den ≤ n := Nat.div_le_of_le_mul (by rwa [Nat.mul_comm] at whole)
  rcases roundHalfEven_cases num den with ⟨rounded, -⟩ | ⟨rounded, half⟩
  · omega
  · -- What is rounded up is no whole number.
    rcases Nat.lt_or_eq_of_le floor with below | same
    · omega
    · have parts := Nat.div_add_mod num den
      rw [same, Nat.mul_comm] at parts
      omega

theorem le_roundHalfEven {num den n : Nat} (den_pos : 0 < den) (le : (n : ℚ) ≤ num / den) :
    n ≤ roundHalfEven num den := by
  have whole : n * den ≤ num := by exact_mod_cast (le_div_iff₀ (Nat.cast_pos.mpr den_pos)).mp le
  have floor : n ≤ num / den := (Nat.le_div_iff_mul_le den_pos).mpr whole
  rcases roundHalfEven_cases num den with ⟨rounded, -⟩ | ⟨rounded, -⟩ <;> omega

/-! ## The exponent -/

/-- The exponent at which `q` is rounded: its significand has at most 53 bits there, and at least 53
    unless the exponent is the least one. -/
structure TakenAt (q : ℚ) (e : Int) : Prop where
  least : minExponent ≤ e
  below : q < 2 ^ 53 * 2 ^ e
  normal : minExponent < e → 2 ^ 52 * 2 ^ e ≤ q

theorem takenAt_max {q : ℚ} {e : Int} (below : q < 2 ^ 53 * 2 ^ e) (normal : 2 ^ 52 * 2 ^ e ≤ q) :
    TakenAt q (max e minExponent) where
  least := le_max_right _ _
  below := lt_of_lt_of_le below
    (mul_le_mul_of_nonneg_left (zpow_le_zpow_right₀ one_le_two (le_max_left _ _)) (by positivity))
  normal greater := by
    have same : max e minExponent = e := by omega
    rwa [same]

theorem takenAt_exponentOf {num den : Nat} (num_pos : 0 < num) (den_pos : 0 < den) :
    TakenAt (num / den) (exponentOf num den) := by
  obtain ⟨low, high⟩ := log2_quotient num_pos den_pos
  rw [exponentOf]
  generalize guessed : (num.log2 : Int) - den.log2 - 52 = guess
  have scaled := quotientOf_scaleDown 2 num den guess
  rw [Nat.cast_ofNat] at scaled
  have scaled_pos := scaleDown_snd_pos Nat.two_pos den_pos num guess
  generalize scaleDown 2 num den guess = f at scaled scaled_pos
  obtain ⟨n, d⟩ := f
  have d_pos : (0 : ℚ) < d := Nat.cast_pos.mpr scaled_pos
  have unit_pos : (0 : ℚ) < 2 ^ guess := by positivity
  have small_iff : n < Nat.pow 2 52 * d ↔ (num : ℚ) / den < 2 ^ 52 * 2 ^ guess := by
    rw [← div_lt_iff₀ unit_pos, ← scaled, quotientOf, div_lt_iff₀ d_pos]
    exact_mod_cast Iff.rfl
  dsimp only
  split_ifs with small
  · refine takenAt_max (lt_of_lt_of_eq (small_iff.mp small) ?_) (le_of_eq_of_le ?_ low.le)
    · rw [zpow_sub_one₀ two_ne_zero]
      ring
    · rw [two_pow_mul, ← guessed]
      congr 1
      push_cast
      ring
  · refine takenAt_max (lt_of_lt_of_eq high ?_) (not_lt.mp fun less => small (small_iff.mpr less))
    rw [two_pow_mul, ← guessed]
    congr 1
    push_cast
    ring

/-! ## Rounded quotients -/

/-- A number of the format. -/
structure Fits (significand : Nat) (exponent : Int) : Prop where
  significand_lt : significand < 2 ^ 53
  least : minExponent ≤ exponent
  greatest : exponent ≤ maxExponent

/-- All numbers of the format are below this bound. -/
theorem Fits.lt {s : Nat} {e : Int} (fits : Fits s e) : (s : ℚ) * 2 ^ e < 2 ^ (1024 : Int) := by
  have small : (s : ℚ) < 2 ^ 53 := by exact_mod_cast fits.significand_lt
  have unit_le : (2 : ℚ) ^ e ≤ 2 ^ maxExponent := zpow_le_zpow_right₀ one_le_two fits.greatest
  calc (s : ℚ) * 2 ^ e < 2 ^ 53 * 2 ^ maxExponent := mul_lt_mul small unit_le (by positivity) (by positivity)
    _ = 2 ^ (1024 : Int) := two_pow_mul 53 maxExponent

/-- The significand of a rounded quotient, before one of 54 bits is carried into the exponent. -/
def significandOf (num den : Nat) : Nat :=
  roundHalfEven (scaleDown 2 num den (exponentOf num den)).1 (scaleDown 2 num den (exponentOf num den)).2

/-- The rounded quotient, as if there were no greatest exponent. -/
def rounded (num den : Nat) : ℚ := significandOf num den * 2 ^ exponentOf num den

section Rounded

variable {num den : Nat} {s : Nat} {e : Int}

theorem rounded_near (num : Nat) {den : Nat} (den_pos : 0 < den) :
    rounded num den ≤ num / den + 2 ^ exponentOf num den / 2 := by
  have scaled := quotientOf_scaleDown 2 num den (exponentOf num den)
  have near := roundHalfEven_near (scaleDown 2 num den (exponentOf num den)).1
    (scaleDown_snd_pos Nat.two_pos den_pos num (exponentOf num den))
  rw [← quotientOf, scaled, Nat.cast_ofNat] at near
  have unit_pos : (0 : ℚ) < 2 ^ exponentOf num den := by positivity
  calc rounded num den
      ≤ (num / den / 2 ^ exponentOf num den + 1 / 2) * 2 ^ exponentOf num den :=
        mul_le_mul_of_nonneg_right near unit_pos.le
    _ = num / den + 2 ^ exponentOf num den / 2 := by field_simp

theorem significandOf_le (den_pos : 0 < den) {n : Nat}
    (le : (num : ℚ) / den ≤ n * 2 ^ exponentOf num den) : significandOf num den ≤ n := by
  refine roundHalfEven_le (scaleDown_snd_pos Nat.two_pos den_pos num _) ?_
  rw [← quotientOf, quotientOf_scaleDown, Nat.cast_ofNat]
  exact (div_le_iff₀ (by positivity)).mpr le

theorem le_significandOf (den_pos : 0 < den) {n : Nat}
    (le : n * 2 ^ exponentOf num den ≤ (num : ℚ) / den) : n ≤ significandOf num den := by
  refine le_roundHalfEven (scaleDown_snd_pos Nat.two_pos den_pos num _) ?_
  rw [← quotientOf, quotientOf_scaleDown, Nat.cast_ofNat]
  exact (le_div_iff₀ (by positivity)).mpr le

/-- No quotient is rounded at a greater exponent than a number of the format that it does not exceed. -/
theorem exponentOf_le (num_pos : 0 < num) (den_pos : 0 < den) (fits : Fits s e)
    (le : (num : ℚ) / den ≤ s * 2 ^ e) : exponentOf num den ≤ e := by
  by_contra greater
  have taken := takenAt_exponentOf num_pos den_pos
  have normal := taken.normal (lt_of_le_of_lt fits.least (not_le.mp greater))
  have unit_le : (2 : ℚ) ^ (e + 1) ≤ 2 ^ exponentOf num den :=
    zpow_le_zpow_right₀ one_le_two (by omega)
  have small : (s : ℚ) < 2 ^ 53 := by exact_mod_cast fits.significand_lt
  have unit_pos : (0 : ℚ) < 2 ^ e := by positivity
  rw [zpow_add_one₀ two_ne_zero] at unit_le
  nlinarith

theorem exists_multiple (s : Nat) {d e : Int} (le : d ≤ e) : ∃ n : Nat, (s : ℚ) * 2 ^ e = n * 2 ^ d := by
  obtain ⟨places, rfl⟩ := Int.le.dest le
  refine ⟨s * 2 ^ places, ?_⟩
  rw [zpow_add₀ two_ne_zero, zpow_natCast]
  push_cast
  ring

/-- A rounded quotient stays at or below the numbers of the format that the quotient does not exceed. -/
theorem rounded_le (num_pos : 0 < num) (den_pos : 0 < den) (fits : Fits s e)
    (le : (num : ℚ) / den ≤ s * 2 ^ e) : rounded num den ≤ s * 2 ^ e := by
  obtain ⟨n, multiple⟩ := exists_multiple s (exponentOf_le num_pos den_pos fits le)
  rw [multiple] at le ⊢
  exact mul_le_mul_of_nonneg_right (Nat.cast_le.mpr (significandOf_le den_pos le)) (by positivity)

/-- A rounded quotient stays at or above the numbers of the format that do not exceed the quotient. -/
theorem le_rounded (num_pos : 0 < num) (den_pos : 0 < den) (fits : Fits s e)
    (le : (s : ℚ) * 2 ^ e ≤ num / den) : s * 2 ^ e ≤ rounded num den := by
  rcases lt_or_ge e (exponentOf num den) with above | under
  · have normal := (takenAt_exponentOf num_pos den_pos).normal (lt_of_le_of_lt fits.least above)
    have full : ((2 ^ 52 : Nat) : ℚ) ≤ significandOf num den :=
      Nat.cast_le.mpr (le_significandOf den_pos (by exact_mod_cast normal))
    have unit_le : (2 : ℚ) ^ (e + 1) ≤ 2 ^ exponentOf num den := zpow_le_zpow_right₀ one_le_two (by omega)
    have small : (s : ℚ) < 2 ^ 53 := by exact_mod_cast fits.significand_lt
    have unit_pos : (0 : ℚ) < 2 ^ e := by positivity
    rw [zpow_add_one₀ two_ne_zero] at unit_le
    calc (s : ℚ) * 2 ^ e ≤ (2 ^ 52 : Nat) * (2 ^ e * 2) := by
          push_cast
          nlinarith
      _ ≤ rounded num den := mul_le_mul full unit_le (by positivity) (Nat.cast_nonneg _)
  · obtain ⟨n, multiple⟩ := exists_multiple s under
    rw [multiple] at le ⊢
    exact mul_le_mul_of_nonneg_right (Nat.cast_le.mpr (le_significandOf den_pos le)) (by positivity)

theorem ofRatio_eq (negative : Bool) (num_pos : 0 < num) :
    ofRatio negative num den
      = if significandOf num den = significandBound then
          if maxExponent < exponentOf num den + 1 then .infinite negative
          else .finite negative (Nat.pow 2 52) (exponentOf num den + 1)
        else if maxExponent < exponentOf num den then .infinite negative
        else .finite negative (significandOf num den) (exponentOf num den) := by
  rw [ofRatio, if_neg num_pos.ne']
  dsimp only
  rw [← significandOf]
  by_cases carried : significandOf num den = significandBound
  · simp only [if_pos carried]
  · simp only [if_neg carried]

/-- A quotient is rounded to a number of the format, unless that would be beyond all of them. -/
theorem ofRatio_cases (negative : Bool) (num_pos : 0 < num) (den_pos : 0 < den) :
    (ofRatio negative num den = .infinite negative ∧ 2 ^ (1024 : Int) ≤ rounded num den)
      ∨ ∃ t f, ofRatio negative num den = .finite negative t f ∧ Fits t f
          ∧ (t : ℚ) * 2 ^ f = rounded num den := by
  have taken := takenAt_exponentOf num_pos den_pos
  have least := taken.least
  have greatest : maxExponent = 971 := rfl
  have short : significandOf num den ≤ 2 ^ 53 := by
    refine significandOf_le den_pos ?_
    push_cast
    exact taken.below.le
  have bound : significandBound = 2 ^ 53 := rfl
  rw [ofRatio_eq negative num_pos, bound, rounded]
  by_cases carried : significandOf num den = 2 ^ 53
  · rw [if_pos carried, carried]
    have half : ((Nat.pow 2 52 : Nat) : ℚ) = 2 ^ 52 := Nat.cast_pow 2 52
    by_cases beyond : maxExponent < exponentOf num den + 1
    · rw [if_pos beyond]
      refine .inl ⟨rfl, ?_⟩
      rw [Nat.cast_pow, Nat.cast_ofNat, two_pow_mul]
      exact zpow_le_zpow_right₀ one_le_two (by omega)
    · rw [if_neg beyond]
      refine .inr ⟨Nat.pow 2 52, _, rfl, ⟨by decide, by omega, by omega⟩, ?_⟩
      rw [half, zpow_add_one₀ two_ne_zero]
      push_cast
      ring
  · rw [if_neg carried]
    by_cases beyond : maxExponent < exponentOf num den
    · rw [if_pos beyond]
      have normal := le_significandOf den_pos (n := 2 ^ 52)
        (by exact_mod_cast taken.normal ((by decide : minExponent < maxExponent).trans beyond))
      refine .inl ⟨rfl, ?_⟩
      calc (2 : ℚ) ^ (1024 : Int) = (2 ^ 52 : Nat) * 2 ^ (maxExponent + 1) := by
            rw [Nat.cast_pow, Nat.cast_ofNat]
            exact (two_pow_mul 52 (maxExponent + 1)).symm
        _ ≤ significandOf num den * 2 ^ exponentOf num den :=
          mul_le_mul (Nat.cast_le.mpr normal) (zpow_le_zpow_right₀ one_le_two (by omega))
            (by positivity) (Nat.cast_nonneg _)
    · rw [if_neg beyond]
      exact .inr ⟨_, _, rfl, ⟨by omega, least, by omega⟩, rfl⟩

/-- A quotient that does not exceed every number of the format is rounded to one. -/
theorem exists_ofRatio_of_le (negative : Bool) (num_pos : 0 < num) (den_pos : 0 < den) (fits : Fits s e)
    (le : (num : ℚ) / den ≤ s * 2 ^ e) :
    ∃ t f, ofRatio negative num den = .finite negative t f ∧ Fits t f ∧ (t : ℚ) * 2 ^ f = rounded num den := by
  rcases ofRatio_cases negative num_pos den_pos with ⟨-, beyond⟩ | finite
  · exact absurd (beyond.trans (rounded_le num_pos den_pos fits le)) (not_le.mpr fits.lt)
  · exact finite

/-- Rounding moves a quotient that is not below one by no more than its part of `2 ^ -53`. -/
theorem rounded_le_mul (num_pos : 0 < num) (den_pos : 0 < den) (one_le : (1 : ℚ) ≤ num / den) :
    rounded num den ≤ num / den * (1 + 1 / 2 ^ 53) := by
  have taken := takenAt_exponentOf num_pos den_pos
  have normal : (2 : ℚ) ^ 52 * 2 ^ exponentOf num den ≤ num / den := by
    rcases lt_or_eq_of_le taken.least with greater | least
    · exact taken.normal greater
    · have small : (2 : ℚ) ^ 52 * 2 ^ minExponent ≤ 1 := by
        rw [two_pow_mul]
        exact zpow_le_one_of_nonpos₀ one_le_two (by decide)
      exact least ▸ small.trans one_le
  have near := rounded_near num den_pos
  linarith

theorem fits_zero : Fits 0 minExponent := ⟨by decide, le_rfl, by decide⟩

theorem fits_of_ofRatio {negative n : Bool} (den_pos : 0 < den)
    (finite : ofRatio negative num den = .finite n s e) : Fits s e := by
  rcases Nat.eq_zero_or_pos num with rfl | num_pos
  · obtain ⟨-, rfl, rfl⟩ := Binary64.finite.inj finite
    exact fits_zero
  · rcases ofRatio_cases negative num_pos den_pos with ⟨infinite, -⟩ | ⟨t, f, same, fits, -⟩
    · cases infinite.symm.trans finite
    · obtain ⟨-, rfl, rfl⟩ := Binary64.finite.inj (same.symm.trans finite)
      exact fits

theorem fits_of_ofDecimal {negative n : Bool} {coefficient : Nat} {power : Int}
    (finite : ofDecimal negative coefficient power = .finite n s e) : Fits s e := by
  rw [ofDecimal] at finite
  split_ifs at finite
  · obtain ⟨-, rfl, rfl⟩ := Binary64.finite.inj finite
    exact fits_zero
  · obtain ⟨-, rfl, rfl⟩ := Binary64.finite.inj finite
    exact fits_zero
  · exact fits_of_ofRatio (scaleDown_snd_pos (by decide) Nat.one_pos coefficient (-power)) finite

end Rounded

end ActionBridge.Binary64
