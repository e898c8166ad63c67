import ActionBridge.Json.Number
import ActionBridge.Proofs.Decimal.Shortest

/-!
# Scaling

The reader of a number rounds the digits, the power of ten and their product or quotient. Downwards
this always ends at a finite number (`exists_scale_of_negative`); upwards it does for the digits that a
number was written with (`exists_scale_shortest`).
-/
namespace ActionBridge.Json
open Binary64 (Fits quotientOf minExponent maxExponent)

/-! ## Magnitudes -/

/-- The number is finite, not negative, and equal to `q`. -/
def Holds (x : Binary64) (q : ℚ) : Prop := ∃ s e, x = .finite false s e ∧ Fits s e ∧ (s : ℚ) * 2 ^ e = q

section Magnitudes

variable {x y : Binary64} {q r : ℚ} {num den s : Nat} {e : Int}

theorem Holds.isFinite (holds : Holds x q) : x.isFinite = true := by
  obtain ⟨s, e, rfl, -⟩ := holds
  rfl

theorem Holds.nonneg (holds : Holds x q) : 0 ≤ q := by
  obtain ⟨s, e, -, -, rfl⟩ := holds
  positivity

theorem Holds.quotientOf_eq (holds : Holds x q) : quotientOf (fractionOf x) = q := by
  obtain ⟨s, e, rfl, -, value⟩ := holds
  rw [← value]
  exact Binary64.quotientOf_toRatio s e

theorem Holds.snd_pos (holds : Holds x q) : 0 < (fractionOf x).2 := by
  obtain ⟨s, e, rfl, -⟩ := holds
  exact Binary64.toRatio_snd_pos s e

/-- A quotient that does not exceed a number of the format is rounded to one that does not, either. -/
theorem exists_holds_ofRatio (den_pos : 0 < den) (fits : Fits s e) (le : (num : ℚ) / den ≤ s * 2 ^ e) :
    ∃ q, Holds (.ofRatio false num den) q ∧ q ≤ s * 2 ^ e := by
  rcases Nat.eq_zero_or_pos num with rfl | num_pos
  · exact ⟨0, ⟨0, minExponent, rfl, Binary64.fits_zero, by simp⟩, by positivity⟩
  · obtain ⟨t, f, same, fits', value⟩ := Binary64.exists_ofRatio_of_le false num_pos den_pos fits le
    exact ⟨_, ⟨t, f, same, fits', value⟩, Binary64.rounded_le num_pos den_pos fits le⟩

/-- The greatest number of the format. -/
theorem fits_greatest : Fits (2 ^ 53 - 1) maxExponent := ⟨by decide, by decide, le_rfl⟩

theorem fits_one : Fits 1 0 := ⟨by decide, by decide, by decide⟩

/-- A quotient from one on is rounded up by less than its part of `2 ^ -53`. -/
theorem exists_holds_of_one_le (den_pos : 0 < den) (one_le : (1 : ℚ) ≤ num / den)
    (le : (num : ℚ) / den ≤ (2 ^ 53 - 1 : Nat) * 2 ^ maxExponent) :
    ∃ q, Holds (.ofRatio false num den) q ∧ 1 ≤ q ∧ q ≤ num / den * (1 + 1 / 2 ^ 53) := by
  have num_pos := Binary64.num_pos_of_quotient (zero_lt_one.trans_le one_le)
  obtain ⟨t, f, same, fits, value⟩ :=
    Binary64.exists_ofRatio_of_le false num_pos den_pos fits_greatest le
  have above := Binary64.le_rounded num_pos den_pos fits_one (by simpa using one_le)
  exact ⟨_, ⟨t, f, same, fits, value⟩, by simpa using above, Binary64.rounded_le_mul num_pos den_pos one_le⟩

theorem product_eq (x_holds : Holds x q) (y_holds : Holds y r) : ∃ num den,
    product x y = .ofRatio false num den ∧ 0 < den ∧ (num : ℚ) / den = q * r := by
  refine ⟨_, _, rfl, Nat.mul_pos x_holds.snd_pos y_holds.snd_pos, ?_⟩
  rw [← x_holds.quotientOf_eq, ← y_holds.quotientOf_eq, quotientOf, quotientOf, div_mul_div_comm]
  push_cast
  rfl

theorem quotient_eq (x_holds : Holds x q) (y_holds : Holds y r) (pos : 0 < r) : ∃ num den,
    quotient x y = .ofRatio false num den ∧ 0 < den ∧ (num : ℚ) / den = q / r := by
  have num_pos : 0 < (fractionOf y).1 := Binary64.num_pos_of_quotient (pos.trans_eq y_holds.quotientOf_eq.symm)
  refine ⟨_, _, rfl, Nat.mul_pos x_holds.snd_pos num_pos, ?_⟩
  rw [← x_holds.quotientOf_eq, ← y_holds.quotientOf_eq, quotientOf, quotientOf, div_div_div_eq]
  push_cast
  rfl

end Magnitudes

/-! ## Powers of ten -/

theorem exists_powerOfTen {n : Nat} (le : n ≤ 308) : ∃ r, Holds (powerOfTen n) r ∧ 1 ≤ r
    ∧ r ≤ 10 ^ n * (1 + 1 / 2 ^ 53) := by
  have value : ((Nat.pow 10 n : Nat) : ℚ) / (1 : Nat) = 10 ^ n := by
    rw [Nat.cast_one, div_one]
    exact Nat.cast_pow 10 n
  have whole : 10 ^ 308 ≤ (2 ^ 53 - 1) * 2 ^ 971 := by decide +kernel
  have small : (10 : ℚ) ^ n ≤ (2 ^ 53 - 1 : Nat) * 2 ^ maxExponent := by
    calc (10 : ℚ) ^ n ≤ 10 ^ 308 := pow_le_pow_right₀ (by norm_num) le
      _ ≤ (2 ^ 53 - 1 : Nat) * 2 ^ 971 := by exact_mod_cast whole
  rw [← value] at small ⊢
  exact exists_holds_of_one_le Nat.one_pos (by rw [value]; exact one_le_pow₀ (by norm_num)) small

/-! ## Downwards -/

theorem exists_scale_of_negative {x : Binary64} {q : ℚ} {s : Nat} {e power : Int} (holds : Holds x q)
    (fits : Fits s e) (le : q ≤ s * 2 ^ e) (negative : power < 0) (steps : Nat) :
    ∃ y r, scale x power steps = some y ∧ Holds y r := by
  induction steps generalizing x q power with
  | zero => exact ⟨_, 0, rfl, 0, minExponent, rfl, Binary64.fits_zero, by simp⟩
  | succ steps ih =>
    -- A number divided by a power of ten from one on does not grow.
    have divided {n : Nat} (small : n ≤ 308) :
        ∃ r, Holds (quotient x (powerOfTen n)) r ∧ r ≤ s * 2 ^ e := by
      obtain ⟨r, r_holds, one_le, -⟩ := exists_powerOfTen small
      obtain ⟨num, den, same, den_pos, value⟩ := quotient_eq holds r_holds (by linarith)
      rw [same]
      exact exists_holds_ofRatio den_pos fits (value.trans_le ((div_le_self holds.nonneg one_le).trans le))
    have down : ¬ 0 ≤ power := not_le.mpr negative
    rw [scale, if_neg down, if_neg down]
    split_ifs with near zero
    · obtain ⟨r, r_holds, -⟩ := divided near
      exact ⟨_, r, rfl, r_holds⟩
    · exact ⟨x, q, rfl, holds⟩
    · obtain ⟨r, r_holds, r_le⟩ := divided le_rfl
      exact ih r_holds r_le (by omega)

/-- Any significand can be scaled down. -/
theorem exists_scale_of_lt {significand : Nat} {power : Int} (small : significand ≤ 2 ^ 64)
    (negative : power < 0) (steps : Nat) :
    ∃ y, scale (.ofRatio false significand 1) power steps = some y ∧ y.isFinite = true := by
  have fits : Fits 1 64 := ⟨by decide, by decide, by decide⟩
  have le : (significand : ℚ) / (1 : Nat) ≤ (1 : Nat) * 2 ^ (64 : Int) := by
    rw [Nat.cast_one, div_one, one_mul]
    exact_mod_cast small
  obtain ⟨q, holds, below⟩ := exists_holds_ofRatio Nat.one_pos fits le
  obtain ⟨y, r, scaled, y_holds⟩ := exists_scale_of_negative holds fits below negative steps
  exact ⟨y, scaled, y_holds.isFinite⟩

/-! ## Upwards -/

section Upwards

variable {s : Nat} {p : Int}

/-- The digits, the power and the product are each rounded. -/
theorem exists_scale_of_le (pos : 0 < s) (nonneg : 0 ≤ p) (steps : Nat)
    (le : (s : ℚ) * 10 ^ p * (1 + 1 / 2 ^ 53) ^ 2 ≤ (2 ^ 53 - 1 : Nat) * 2 ^ maxExponent) :
    ∃ y, scale (.ofRatio false s 1) p (steps + 1) = some y ∧ y.isFinite = true := by
  obtain ⟨n, rfl⟩ := Int.eq_ofNat_of_zero_le nonneg
  have s_ge : (1 : ℚ) ≤ s := by exact_mod_cast pos
  have power_ge : (1 : ℚ) ≤ 10 ^ n := one_le_pow₀ (by norm_num)
  rw [zpow_natCast] at le
  have value_le : (s : ℚ) * 10 ^ n ≤ (2 ^ 53 - 1 : Nat) * 2 ^ maxExponent :=
    (le_mul_of_one_le_right (by positivity) (by norm_num)).trans le
  have small : n ≤ 308 := by
    have power_le := (le_mul_of_one_le_left (by positivity) s_ge).trans value_le
    have whole : (2 ^ 53 - 1) * 2 ^ 971 < 10 ^ 309 := by decide +kernel
    have bound : ((2 ^ 53 - 1 : Nat) : ℚ) * 2 ^ maxExponent < 10 ^ 309 := by
      rw [maxExponent]
      exact_mod_cast whole
    have less := (pow_lt_pow_iff_right₀ (by norm_num)).mp (power_le.trans_lt bound)
    omega
  obtain ⟨r, r_holds, r_ge, r_le⟩ := exists_powerOfTen small
  have whole : (s : ℚ) / (1 : Nat) = s := by rw [Nat.cast_one, div_one]
  obtain ⟨q, q_holds, q_ge, q_le⟩ := exists_holds_of_one_le Nat.one_pos (s_ge.trans_eq whole.symm)
    (whole.trans_le ((le_mul_of_one_le_right (by positivity) power_ge).trans value_le))
  rw [whole] at q_le
  obtain ⟨num, den, same, den_pos, value⟩ := product_eq q_holds r_holds
  have product_le : (num : ℚ) / den ≤ (2 ^ 53 - 1 : Nat) * 2 ^ maxExponent := by
    rw [value]
    calc q * r ≤ s * (1 + 1 / 2 ^ 53) * (10 ^ n * (1 + 1 / 2 ^ 53)) :=
          mul_le_mul q_le r_le (by linarith) (by positivity)
      _ = s * 10 ^ n * (1 + 1 / 2 ^ 53) ^ 2 := by ring
      _ ≤ _ := le
  obtain ⟨_, holds, -⟩ := exists_holds_ofRatio den_pos fits_greatest product_le
  rw [scale, if_pos (by simpa using small), if_pos nonneg]
  rw [Int.natAbs_natCast, same]
  exact ⟨_, if_pos holds.isFinite, holds.isFinite⟩

/-- For the three greatest numbers the digits are at most as far above them as rounding could lead
    beyond the format, so these are computed. -/
theorem scale_shortest_greatest : ∀ k < 3,
    (scale (.ofRatio false (Binary64.shortest .even (2 ^ 53 - 1 - k) maxExponent).1 1)
      (Binary64.shortest .even (2 ^ 53 - 1 - k) maxExponent).2 4).map Binary64.isFinite = some true := by
  decide +kernel

end Upwards

theorem half_above_le {s : Nat} {e : Int} (fits : Fits s e) (other : ¬(e = maxExponent ∧ 2 ^ 53 - 4 < s)) :
    (s : ℚ) * 2 ^ e + 2 ^ e / 2 ≤ (2 ^ 53 - 7 / 2) * 2 ^ maxExponent := by
  have short := fits.significand_lt
  have greatest := fits.greatest
  have unit_pos : (0 : ℚ) < 2 ^ maxExponent := by positivity
  by_cases same : e = maxExponent
  · have le : s + 4 ≤ 2 ^ 53 := by omega
    have le' : (s : ℚ) + 4 ≤ 2 ^ 53 := by exact_mod_cast le
    rw [same]
    nlinarith
  · have unit_le : (2 : ℚ) ^ (e + 1) ≤ 2 ^ maxExponent := zpow_le_zpow_right₀ one_le_two (by omega)
    have short' : (s : ℚ) < 2 ^ 53 := by exact_mod_cast short
    have unit_pos' : (0 : ℚ) < 2 ^ e := by positivity
    rw [zpow_add_one₀ two_ne_zero] at unit_le
    nlinarith

/-- The digits that a positive number is written with are read as a finite number. -/
theorem exists_scale_shortest {s : Nat} {e : Int} (fits : Fits s e) (pos : 0 < s) :
    ∃ y, scale (.ofRatio false (Binary64.shortest .even s e).1 1) (Binary64.shortest .even s e).2 4 = some y
      ∧ y.isFinite = true := by
  by_cases greatest : e = maxExponent ∧ 2 ^ 53 - 4 < s
  · obtain ⟨rfl, near⟩ := greatest
    have short := fits.significand_lt
    have computed := scale_shortest_greatest (2 ^ 53 - 1 - s) (by omega)
    have same : 2 ^ 53 - 1 - (2 ^ 53 - 1 - s) = s := by omega
    rw [same] at computed
    exact Option.map_eq_some_iff.mp computed
  have short := Binary64.shortest_spec .even fits pos
  generalize Binary64.shortest .even s e = d at short
  obtain ⟨digits, power⟩ := d
  obtain ⟨digits_pos, digits_le, value_le, -, -⟩ := short
  by_cases nonneg : 0 ≤ power
  · have below := half_above_le fits greatest
    have unit_pos : (0 : ℚ) < 2 ^ maxExponent := by positivity
    refine exists_scale_of_le digits_pos nonneg 3 ?_
    calc (digits : ℚ) * 10 ^ power * (1 + 1 / 2 ^ 53) ^ 2
        ≤ (2 ^ 53 - 7 / 2) * 2 ^ maxExponent * (1 + 1 / 2 ^ 53) ^ 2 :=
          mul_le_mul_of_nonneg_right (value_le.trans below) (by positivity)
      _ = (2 ^ 53 - 7 / 2) * (1 + 1 / 2 ^ 53) ^ 2 * 2 ^ maxExponent := by ring
      _ ≤ (2 ^ 53 - 1 : Nat) * 2 ^ maxExponent :=
          mul_le_mul_of_nonneg_right (by norm_num) unit_pos.le
  · exact exists_scale_of_lt (by omega) (not_le.mp nonneg) 4

end ActionBridge.Json
