import ActionBridge.Decimal.Shortest
import ActionBridge.Proofs.Decimal.Rounding

/-!
# Shortest decimals

Seventeen digits always suffice: on the grid that has seventeen of them before the number ends, one of
the two multiples next to it is in the interval (`exists_nearestOnGrid`). So the shortest decimal of a
positive number is positive, has at most seventeen digits and is above the number by no more than half
of its last place (`shortest_spec`).
-/
namespace ActionBridge.Binary64

/-! ## Leading powers -/

/-- How well the quotient `30103 / 100000` stands in for the logarithm of two to base ten. -/
theorem guess_nonneg : ∀ n < 1100,
    10 ^ (n * 30103 / 100000) ≤ 5 * 2 ^ n ∧ 2 ^ n ≤ 50 * 10 ^ (n * 30103 / 100000) := by
  decide +kernel

theorem guess_negative : ∀ n < 1100,
    2 ^ n ≤ 5 * 10 ^ ((n * 30103 + 99999) / 100000) ∧ 10 ^ ((n * 30103 + 99999) / 100000) ≤ 50 * 2 ^ n := by
  decide +kernel

theorem guess_bounds {l : Int} (low : -1100 < l) (high : l < 1100) :
    (10 : ℚ) ^ (l * 30103 / 100000 - 1) ≤ 2 ^ (l - 1)
      ∧ (2 : ℚ) ^ (l + 1) ≤ 10 ^ (l * 30103 / 100000 + 2) := by
  have ten : (10 : ℚ) ≠ 0 := by norm_num
  rw [zpow_sub_one₀ ten, zpow_sub_one₀ two_ne_zero, zpow_add_one₀ two_ne_zero, zpow_add₀ ten]
  rcases Int.le_total 0 l with nonneg | nonpos
  · obtain ⟨n, rfl⟩ := Int.eq_ofNat_of_zero_le nonneg
    obtain ⟨least, most⟩ := guess_nonneg n (by omega)
    have guess : (n : Int) * 30103 / 100000 = (n * 30103 / 100000 : Nat) := by omega
    have least' : (10 : ℚ) ^ (n * 30103 / 100000) ≤ 5 * 2 ^ n := by exact_mod_cast least
    have most' : (2 : ℚ) ^ n ≤ 50 * 10 ^ (n * 30103 / 100000) := by exact_mod_cast most
    rw [guess, zpow_natCast, zpow_natCast]
    constructor <;> norm_num <;> linarith
  · obtain ⟨n, rfl⟩ := Int.exists_eq_neg_ofNat nonpos
    obtain ⟨least, most⟩ := guess_negative n (by omega)
    have guess : -(n : Int) * 30103 / 100000 = -((n * 30103 + 99999) / 100000 : Nat) := by omega
    have least' : (2 : ℚ) ^ n ≤ 5 * 10 ^ ((n * 30103 + 99999) / 100000) := by exact_mod_cast least
    have most' : (10 : ℚ) ^ ((n * 30103 + 99999) / 100000) ≤ 50 * 2 ^ n := by exact_mod_cast most
    rw [guess, zpow_neg, zpow_neg, zpow_natCast, zpow_natCast]
    have two_pos : (0 : ℚ) < 2 ^ n := by positivity
    have ten_pos : (0 : ℚ) < 10 ^ ((n * 30103 + 99999) / 100000) := by positivity
    rw [← mul_inv, ← mul_inv, inv_mul_eq_div, inv_mul_eq_div, div_le_div_iff₀ two_pos ten_pos]
    constructor
    · exact inv_anti₀ (by positivity) (by linarith)
    · norm_num
      linarith

/-- The number is at least the power of ten, and below the next one. -/
theorem leadingPower_spec {num den : Nat} (num_pos : 0 < num) (den_pos : 0 < den)
    (low : (2 : ℚ) ^ (-1098 : Int) < num / den) (high : (num : ℚ) / den < 2 ^ (1098 : Int)) :
    (10 : ℚ) ^ leadingPower num den ≤ num / den ∧ (num : ℚ) / den < 10 ^ (leadingPower num den + 1) := by
  obtain ⟨log_above, log_under⟩ := log2_quotient num_pos den_pos
  have log_low := (zpow_lt_zpow_iff_right₀ one_lt_two).mp (low.trans log_under)
  have log_high := (zpow_lt_zpow_iff_right₀ one_lt_two).mp (log_above.trans high)
  obtain ⟨guess_low, guess_high⟩ :=
    guess_bounds (l := (num.log2 : Int) - den.log2) (by omega) (by omega)
  have reaches (p : Int) :
      (scaleDown 10 num den p).2 ≤ (scaleDown 10 num den p).1 ↔ (10 : ℚ) ^ p ≤ num / den := by
    have scaled := quotientOf_scaleDown 10 num den p
    rw [Nat.cast_ofNat] at scaled
    have pos : (0 : ℚ) < (scaleDown 10 num den p).2 :=
      Nat.cast_pos.mpr (scaleDown_snd_pos (by decide) den_pos num p)
    have unit_pos : (0 : ℚ) < 10 ^ p := by positivity
    rw [← one_le_div₀ unit_pos, ← scaled, quotientOf, one_le_div₀ pos, Nat.cast_le]
  rw [leadingPower]
  generalize ((num.log2 : Int) - den.log2) * 30103 / 100000 = guess at guess_low guess_high
  dsimp only
  simp only [decide_eq_true_eq, reaches]
  split_ifs with above at_guess
  · refine ⟨above, lt_of_lt_of_eq (log_under.trans_le guess_high) ?_⟩
    rw [add_assoc]
    rfl
  · exact ⟨at_guess, not_le.mp above⟩
  · refine ⟨guess_low.trans log_above.le, ?_⟩
    rw [sub_add_cancel]
    exact not_le.mp at_guess

/-! ## Intervals -/

/-- An interval around `x`, from `x - below` to `x + above`. -/
structure Interval.Around (i : Interval) (x below above : ℚ) : Prop where
  den_pos : 0 < i.den
  value : (i.value : ℚ) / i.den = x
  low : (i.low : ℚ) / i.den = x - below
  high : (i.high : ℚ) / i.den = x + above

section Contains

variable {i : Interval} {x below above : ℚ} {num den : Nat}

theorem Interval.Around.contains (around : i.Around x below above) (den_pos : 0 < den)
    (low : x - below < num / den) (high : (num : ℚ) / den < x + above) : i.contains num den = true := by
  have den_pos' : (0 : ℚ) < den := Nat.cast_pos.mpr den_pos
  have i_pos : (0 : ℚ) < i.den := Nat.cast_pos.mpr around.den_pos
  rw [← around.low, div_lt_div_iff₀ i_pos den_pos'] at low
  rw [← around.high, div_lt_div_iff₀ den_pos' i_pos] at high
  have low' : i.low * den < num * i.den := by exact_mod_cast low
  have high' : num * i.den < i.high * den := by exact_mod_cast high
  rw [Interval.contains]
  split <;> simp [low', high', Nat.le_of_lt]

theorem Interval.Around.le_of_contains (around : i.Around x below above) (den_pos : 0 < den)
    (inside : i.contains num den = true) : (num : ℚ) / den ≤ x + above := by
  have den_pos' : (0 : ℚ) < den := Nat.cast_pos.mpr den_pos
  have i_pos : (0 : ℚ) < i.den := Nat.cast_pos.mpr around.den_pos
  have high : num * i.den ≤ i.high * den := by
    rw [Interval.contains] at inside
    split at inside <;> simp at inside <;> omega
  rw [← around.high, div_le_div_iff₀ den_pos' i_pos]
  exact_mod_cast high

end Contains

/-- Below a power of two there is a quarter of the last place, everywhere else there is a half. -/
theorem around_intervalOf {s : Nat} {e : Int} (pos : 0 < s) (short : s < 2 ^ 53) : ∃ below : ℚ,
    (intervalOf s e).Around (s * 2 ^ e) below (2 ^ e / 2) ∧ (s : ℚ) * 2 ^ e < 2 * 10 ^ 16 * below := by
  have unit_pos : (0 : ℚ) < 2 ^ e := by positivity
  have den_pos := toRatio_snd_pos 1 (e - 2)
  have den_pos' : (0 : ℚ) < (toRatio 1 (e - 2)).2 := Nat.cast_pos.mpr den_pos
  have quarter : ((toRatio 1 (e - 2)).1 : ℚ) / (toRatio 1 (e - 2)).2 = 2 ^ e / 4 := by
    rw [← quotientOf, quotientOf_toRatio, zpow_sub₀ two_ne_zero]
    norm_num
  have scaled (n : Nat) : ((n * (toRatio 1 (e - 2)).1 : Nat) : ℚ) / (toRatio 1 (e - 2)).2 = n * (2 ^ e / 4) := by
    rw [Nat.cast_mul, mul_div_assoc, quarter]
  have around {b : Nat} (small : b ≤ 2) : ∀ closed, Interval.Around
      ⟨(4 * s - b) * (toRatio 1 (e - 2)).1, 4 * s * (toRatio 1 (e - 2)).1,
        (4 * s + 2) * (toRatio 1 (e - 2)).1, (toRatio 1 (e - 2)).2, closed⟩
      (s * 2 ^ e) (b * 2 ^ e / 4) (2 ^ e / 2) := by
    intro closed
    refine ⟨den_pos, ?_, ?_, ?_⟩
    · rw [scaled]
      push_cast
      ring
    · rw [scaled, Nat.cast_sub (by omega)]
      push_cast
      ring
    · rw [scaled]
      push_cast
      ring
  by_cases boundary : s = Nat.pow 2 52 ∧ minExponent < e
  · refine ⟨(1 : Nat) * 2 ^ e / 4, ?_, ?_⟩
    · rw [intervalOf, if_pos boundary]
      exact around (by decide) _
    · have value : (s : ℚ) = 2 ^ 52 := by rw [boundary.1]; exact Nat.cast_pow 2 52
      rw [value]
      push_cast
      linarith
  · refine ⟨(2 : Nat) * 2 ^ e / 4, ?_, ?_⟩
    · rw [intervalOf, if_neg boundary]
      exact around le_rfl _
    · have small : (s : ℚ) < 2 ^ 53 := by exact_mod_cast short
      push_cast
      nlinarith

/-! ## Grids -/

section Grids

variable {tie : Tie} {i : Interval} {x below above : ℚ} {power : Int} {k : Nat}

/-- A multiple of a power of ten. -/
def onGrid (power : Int) (k : Nat) : Nat × Nat :=
  (k * (scaleDown 10 1 1 (-power)).1, (scaleDown 10 1 1 (-power)).2)

theorem quotientOf_onGrid (power : Int) (k : Nat) : quotientOf (onGrid power k) = k * 10 ^ power := by
  have unit := quotientOf_scaleDown 10 1 1 (-power)
  rw [quotientOf, zpow_neg, Nat.cast_one, div_one, one_div, inv_inv, Nat.cast_ofNat] at unit
  rw [quotientOf, onGrid, Nat.cast_mul, mul_div_assoc, unit]

theorem onGrid_snd_pos (power : Int) (k : Nat) : 0 < (onGrid power k).2 :=
  scaleDown_snd_pos (by decide) Nat.one_pos 1 (-power)

/-- The multiple next to the number, at or below it. -/
def floorOnGrid (i : Interval) (power : Int) : Nat :=
  (scaleDown 10 i.value i.den power).1 / (scaleDown 10 i.value i.den power).2

theorem floorOnGrid_le (around : i.Around x below above) (power : Int) :
    floorOnGrid i power * 10 ^ power ≤ x ∧ x < (floorOnGrid i power + 1) * 10 ^ power := by
  have scaled := quotientOf_scaleDown 10 i.value i.den power
  have f_pos := scaleDown_snd_pos (by decide : 0 < 10) around.den_pos i.value power
  have f_pos' : (0 : ℚ) < (scaleDown 10 i.value i.den power).2 := Nat.cast_pos.mpr f_pos
  have unit_pos : (0 : ℚ) < 10 ^ power := by positivity
  have low : (floorOnGrid i power * (scaleDown 10 i.value i.den power).2 : ℚ)
      ≤ (scaleDown 10 i.value i.den power).1 := by exact_mod_cast Nat.div_mul_le_self _ _
  have high : ((scaleDown 10 i.value i.den power).1 : ℚ)
      < (floorOnGrid i power + 1) * (scaleDown 10 i.value i.den power).2 := by
    have next := Nat.lt_mul_div_succ (scaleDown 10 i.value i.den power).1 f_pos
    rw [Nat.mul_comm] at next
    exact_mod_cast next
  rw [quotientOf, around.value, Nat.cast_ofNat] at scaled
  constructor
  · rw [← le_div_iff₀ unit_pos, ← scaled]
    exact (le_div_iff₀ f_pos').mpr low
  · rw [← div_lt_iff₀ unit_pos, ← scaled]
    exact (div_lt_iff₀ f_pos').mpr high

/-- A number from the step of a grid on has a digit on it. -/
theorem floorOnGrid_pos (around : i.Around x below above) (le : (10 : ℚ) ^ power ≤ x) :
    0 < floorOnGrid i power := by
  obtain ⟨-, lt_floor⟩ := floorOnGrid_le around power
  refine Nat.pos_of_ne_zero fun zero => ?_
  rw [zero] at lt_floor
  push_cast at lt_floor
  linarith

theorem floorOnGrid_lt (around : i.Around x below above) {n : Nat} (lt : x < 10 ^ (power + n)) :
    floorOnGrid i power < 10 ^ n := by
  obtain ⟨floor_le, -⟩ := floorOnGrid_le around power
  rw [zpow_add₀ (by norm_num), zpow_natCast, mul_comm] at lt
  have unit_pos : (0 : ℚ) < 10 ^ power := by positivity
  exact_mod_cast lt_of_mul_lt_mul_right (floor_le.trans_lt lt) unit_pos.le

/-- The multiple is in the interval and next to the number. -/
structure Hit (i : Interval) (power : Int) (k : Nat) : Prop where
  inside : i.contains (onGrid power k).1 (onGrid power k).2 = true
  near : k = floorOnGrid i power ∨ k = floorOnGrid i power + 1

theorem hit_of_nearestOnGrid (found : nearestOnGrid tie i power = some k) : Hit i power k := by
  unfold nearestOnGrid at found
  dsimp only at found
  split at found
  · rename_i inside inside'
    obtain rfl := Option.some.inj found
    exact iteInduction (motive := Hit i power) (fun _ => ⟨inside', .inr rfl⟩) fun _ => ⟨inside, .inl rfl⟩
  · rename_i inside _
    obtain rfl := Option.some.inj found
    exact ⟨inside, .inl rfl⟩
  · rename_i _ inside'
    obtain rfl := Option.some.inj found
    exact ⟨inside', .inr rfl⟩
  · cases found

theorem exists_of_hit (hit : Hit i power k) : ∃ k, nearestOnGrid tie i power = some k := by
  unfold nearestOnGrid
  dsimp only
  split
  · exact ⟨_, rfl⟩
  · exact ⟨_, rfl⟩
  · exact ⟨_, rfl⟩
  · rename_i outside outside'
    rcases hit.near with rfl | rfl
    · cases hit.inside.symm.trans outside
    · cases hit.inside.symm.trans outside'

/-- A grid of steps that are less than twice the room on both sides has a multiple in the interval. -/
theorem exists_nearestOnGrid (tie : Tie) (around : i.Around x below above)
    (fine_below : (10 : ℚ) ^ power < 2 * below) (fine_above : (10 : ℚ) ^ power < 2 * above) :
    ∃ k, nearestOnGrid tie i power = some k := by
  obtain ⟨low, high⟩ := floorOnGrid_le around power
  have contains (k : Nat) (low : x - below < k * 10 ^ power) (high : (k : ℚ) * 10 ^ power < x + above) :
      i.contains (onGrid power k).1 (onGrid power k).2 = true := by
    rw [← quotientOf_onGrid] at low high
    exact around.contains (onGrid_snd_pos power k) low high
  have unit_pos : (0 : ℚ) < 10 ^ power := by positivity
  -- Of the two multiples next to the number one is no more than half a step off.
  by_cases half : x < floorOnGrid i power * 10 ^ power + 10 ^ power / 2
  · exact exists_of_hit ⟨contains _ (by linarith) (by linarith), .inl rfl⟩
  · refine exists_of_hit ⟨contains _ ?_ ?_, .inr rfl⟩ <;> push_cast <;> linarith

theorem firstHit_spec {last : Int} (found : ∃ k, nearestOnGrid tie i last = some k) (grids : Nat)
    (le : last ≤ power) (lt : power < last + grids) :
    ∃ k p, firstHit tie i power grids = (k, p) ∧ nearestOnGrid tie i p = some k ∧ last ≤ p ∧ p ≤ power := by
  induction grids generalizing power with
  | zero => omega
  | succ grids ih =>
    rw [firstHit]
    cases here : nearestOnGrid tie i power with
    | some k => exact ⟨k, power, rfl, here, le, le_rfl⟩
    | none =>
      have further : last ≠ power := by
        rintro rfl
        obtain ⟨k, hit⟩ := found
        cases here.symm.trans hit
      obtain ⟨k, p, first, hit, low, high⟩ := @ih (power - 1) (by omega) (by omega)
      exact ⟨k, p, first, hit, low, by omega⟩

end Grids

/-! ## Zeros at the end -/

theorem dropZeros_spec (fuel k : Nat) (p : Int) :
    ((dropZeros fuel (k, p)).1 : ℚ) * 10 ^ (dropZeros fuel (k, p)).2 = k * 10 ^ p
      ∧ (dropZeros fuel (k, p)).1 ≤ k ∧ p ≤ (dropZeros fuel (k, p)).2
      ∧ (dropZeros fuel (k, p)).2 ≤ p + fuel ∧ (0 < k → 0 < (dropZeros fuel (k, p)).1) := by
  induction fuel generalizing k p with
  | zero => exact ⟨rfl, le_rfl, le_rfl, by simp [dropZeros], id⟩
  | succ fuel ih =>
    rw [dropZeros]
    split
    · rename_i zero
      obtain ⟨value, le, low, high, pos⟩ := ih (k / 10) (p + 1)
      have tenth : 10 * (k / 10) = k := by omega
      have tenth' : 10 * ((k / 10 : Nat) : ℚ) = k := by exact_mod_cast tenth
      refine ⟨value.trans ?_, by omega, by omega, by omega, fun k_pos => pos (by omega)⟩
      rw [zpow_add_one₀ (by norm_num), ← tenth']
      ring
    · exact ⟨rfl, le_rfl, le_rfl, by omega, id⟩

/-! ## The shortest decimal -/

/-- A positive decimal of at most seventeen digits, which is above the number by no more than half of its
    last place. -/
structure Shortens (s : Nat) (e : Int) (d : Nat × Int) : Prop where
  pos : 0 < d.1
  digits_le : d.1 ≤ 10 ^ 17
  value_le : (d.1 : ℚ) * 10 ^ d.2 ≤ s * 2 ^ e + 2 ^ e / 2
  low : -400 < d.2
  high : d.2 < 400

theorem Fits.least_le {s : Nat} {e : Int} (fits : Fits s e) (pos : 0 < s) :
    (2 : ℚ) ^ minExponent ≤ s * 2 ^ e := by
  have one_le : (1 : ℚ) ≤ s := by exact_mod_cast pos
  calc (2 : ℚ) ^ minExponent ≤ 2 ^ e := zpow_le_zpow_right₀ one_le_two fits.least
    _ ≤ s * 2 ^ e := le_mul_of_one_le_left (by positivity) one_le

/-- The first digit of a number of the format stands for a power of ten from `10 ^ -324` to `10 ^ 308`. -/
theorem Fits.places {s : Nat} {e : Int} (fits : Fits s e) (pos : 0 < s) {p : Int}
    (le : (10 : ℚ) ^ p ≤ s * 2 ^ e) (lt : (s : ℚ) * 2 ^ e < 10 ^ (p + 1)) : -325 < p ∧ p < 309 := by
  have ten : (1 : ℚ) < 10 := by norm_num
  have great : (2 : ℚ) ^ (1024 : Int) < 10 ^ (309 : Int) := by
    have whole : 2 ^ 1024 < 10 ^ 309 := by decide +kernel
    exact_mod_cast whole
  have small : (10 : ℚ) ^ (-324 : Int) < 2 ^ minExponent := by
    have whole : 2 ^ 1074 < 10 ^ 324 := by decide +kernel
    have whole' : (2 : ℚ) ^ 1074 < 10 ^ 324 := by exact_mod_cast whole
    rw [minExponent, zpow_neg, zpow_neg]
    exact inv_strictAnti₀ (by positivity) whole'
  have upper := (zpow_lt_zpow_iff_right₀ ten).mp (le.trans_lt (fits.lt.trans great))
  have lower := (zpow_lt_zpow_iff_right₀ ten).mp (small.trans_le (fits.least_le pos |>.trans lt.le))
  omega

theorem shortest_spec (tie : Tie) {s : Nat} {e : Int} (fits : Fits s e) (pos : 0 < s) :
    Shortens s e (shortest tie s e) := by
  obtain ⟨below, around, room⟩ := around_intervalOf (e := e) pos fits.significand_lt
  have least := fits.least_le pos
  have unit_pos : (0 : ℚ) < 2 ^ e := by positivity
  have short : (s : ℚ) < 2 ^ 53 := by exact_mod_cast fits.significand_lt
  rw [shortest]
  generalize intervalOf s e = i at around
  have value_pos : 0 < i.value := num_pos_of_quotient (by rw [around.value]; positivity)
  obtain ⟨lead_le, lt_next⟩ := leadingPower_spec value_pos around.den_pos
    (by rw [around.value]; exact (zpow_lt_zpow_right₀ one_lt_two (by decide)).trans_le least)
    (by rw [around.value]; exact fits.lt.trans (zpow_lt_zpow_right₀ one_lt_two (by decide)))
  rw [around.value] at lead_le lt_next
  generalize leadingPower i.value i.den = lead at lead_le lt_next
  obtain ⟨lead_low, lead_high⟩ := fits.places pos lead_le lt_next
  have fine : (10 : ℚ) ^ (lead - 16) ≤ s * 2 ^ e / 10 ^ 16 := by
    rw [zpow_sub₀ (by norm_num)]
    exact div_le_div_of_nonneg_right lead_le (by positivity)
  have last : ∃ k, nearestOnGrid tie i (lead - 16) = some k :=
    exists_nearestOnGrid tie around (by linarith) (by nlinarith)
  obtain ⟨k, p, first, found, p_low, p_high⟩ := firstHit_spec last 17 (by omega : lead - 16 ≤ lead) (by omega)
  have hit := hit_of_nearestOnGrid found
  have le_high := around.le_of_contains (onGrid_snd_pos p k) hit.inside
  rw [← quotientOf, quotientOf_onGrid] at le_high
  have floor_pos := floorOnGrid_pos around ((zpow_le_zpow_right₀ (by norm_num) p_high).trans lead_le)
  have floor_lt : floorOnGrid i p < 10 ^ 17 := floorOnGrid_lt around
    (lt_next.trans_le (zpow_le_zpow_right₀ (by norm_num) (by omega : lead + 1 ≤ p + 17)))
  rw [first]
  obtain ⟨value, le, low, high, still_pos⟩ := dropZeros_spec 17 k p
  have near := hit.near
  exact ⟨still_pos (by omega), by omega, value ▸ le_high, by omega, by push_cast at high; omega⟩

end ActionBridge.Binary64
