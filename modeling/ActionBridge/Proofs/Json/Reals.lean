import ActionBridge.Proofs.Json.Numerals
import ActionBridge.Proofs.Json.Scaling

/-!
# Real numbers in JSON

Every finite number is written as a number of JSON, positionally or with an exponent, and that is read as
a finite number again (`exists_numeral_write`).
-/
namespace ActionBridge.Json
open Decimal

/-! ## Layouts -/

/-- The number is well-formed, is written as `cs` behind its sign, and means the digits `significand` at
    the given power of ten. -/
structure Denotes (n : Numeral) (negative : Bool) (cs : List Char) (significand : Nat) (power : Int) :
    Prop where
  formed : n.Formed
  chars : n.chars = (if negative then ['-'] else []) ++ cs
  value : n.value = realOf negative significand power

section Layouts

variable {ds : List Char} {power : Int} (negative : Bool)

theorem isDigit_of_mem_replicate {n : Nat} {c : Char} (member : c ∈ List.replicate n '0') :
    isDigit c = true := by
  rw [List.eq_of_mem_replicate member]
  rfl

theorem Digits.append {ds es : List Char} (some : ds ≠ [] ∨ es ≠ []) (digits : ∀ c ∈ ds, isDigit c = true)
    (digits' : ∀ c ∈ es, isDigit c = true) : Digits (ds ++ es) where
  some := by simpa [List.append_eq_nil_iff, imp_iff_not_or] using some
  digits c member := (List.mem_append.mp member).elim (digits c) (digits' c)

theorem digits_zero : Digits ['0'] where
  some := List.cons_ne_nil '0' []
  digits c member := by
    rw [List.mem_singleton.mp member]
    rfl

/-- Digits with a point among them. -/
theorem denotes_pointed {whole fraction : List Char} (digits : Digits whole)
    (leading : whole = ['0'] ∨ whole.head? ≠ some '0') (digits' : Digits fraction)
    (fits : ofDigits (whole ++ fraction) < significandBound) (short : fraction.length < 2 ^ 30) :
    Denotes ⟨negative, whole, some fraction, none⟩ negative (whole ++ '.' :: fraction)
      (ofDigits (whole ++ fraction)) (-fraction.length) := by
  constructor
  · exact ⟨digits, leading, fun ds same => Option.some.inj same ▸ digits', fun p same => by cases same⟩
  · rw [Numeral.chars, fractionChars, powerChars, List.append_nil]
  · rw [Numeral.value_of_fits ⟨negative, whole, some fraction, none⟩ (.inl (Option.some_ne_none _)) fits short
      (by decide : (0 : Int).natAbs < 2 ^ 30)]
    congr 1
    simp [writtenPower]

theorem whole_lt {n : Nat} (digits : Digits ds) (short : ds.length + n ≤ 16) :
    ofDigits ds * 10 ^ (n + 1) < significandBound := by
  calc ofDigits ds * 10 ^ (n + 1) < 10 ^ ds.length * 10 ^ (n + 1) :=
        Nat.mul_lt_mul_of_pos_right (ofDigits_lt digits.digits) (by positivity)
    _ = 10 ^ (ds.length + (n + 1)) := (Nat.pow_add ..).symm
    _ ≤ 10 ^ 17 := Nat.pow_le_pow_right (by decide) (by omega)
    _ ≤ significandBound := by decide

/-- A whole number. -/
theorem denotes_whole {n : Nat} (digits : Digits ds) (leading : ds.head? ≠ some '0')
    (short : ds.length + n ≤ 16) :
    ∃ m, Denotes m negative (ds ++ List.replicate n '0' ++ ['.', '0']) (ofDigits ds * 10 ^ (n + 1)) (-1) := by
  have number : ofDigits (ds ++ List.replicate n '0' ++ ['0']) = ofDigits ds * 10 ^ (n + 1) := by
    rw [ofDigits_append, ofDigits_append, ofDigits_replicate_zero, List.length_replicate]
    show (ofDigits ds * 10 ^ n + 0) * 10 ^ 1 + 0 = _
    ring
  have fits := whole_lt digits short
  have whole : Digits (ds ++ List.replicate n '0') :=
    .append (.inl digits.some) digits.digits fun c => isDigit_of_mem_replicate
  have denotes := denotes_pointed negative whole (.inr (by rwa [List.head?_append_of_ne_nil _ digits.some]))
    digits_zero (number.symm ▸ fits) (by decide)
  rw [number] at denotes
  exact ⟨_, denotes⟩

/-- Digits with the point between them. -/
theorem denotes_between {n : Nat} (digits : Digits ds) (leading : ds.head? ≠ some '0')
    (fits : ofDigits ds < significandBound) (short : ds.length < 2 ^ 30) (pos : 0 < n)
    (lt : n < ds.length) :
    ∃ m, Denotes m negative (ds.take n ++ '.' :: ds.drop n) (ofDigits ds) (n - ds.length) := by
  have whole : Digits (ds.take n) :=
    ⟨by simp [digits.some, pos.ne'], fun c member => digits.digits c (List.mem_of_mem_take member)⟩
  have fraction : Digits (ds.drop n) :=
    ⟨by simp [lt], fun c member => digits.digits c (List.mem_of_mem_drop member)⟩
  have head : (ds.take n).head? ≠ some '0' := by rwa [List.head?_take, if_neg pos.ne']
  have denotes := denotes_pointed negative whole (.inr head) fraction
    (by rwa [List.take_append_drop]) (by rw [List.length_drop]; omega)
  have places : -((ds.drop n).length : Int) = n - ds.length := by
    rw [List.length_drop]
    omega
  rw [List.take_append_drop, places] at denotes
  exact ⟨_, denotes⟩

/-- Digits with nothing but zeros between the point and them. -/
theorem denotes_below {n : Nat} (digits : Digits ds) (fits : ofDigits ds < significandBound)
    (short : ds.length + n < 2 ^ 30) :
    ∃ m, Denotes m negative ('0' :: '.' :: (List.replicate n '0' ++ ds)) (ofDigits ds) (-n - ds.length) := by
  have fraction : Digits (List.replicate n '0' ++ ds) :=
    .append (.inr digits.some) (fun c => isDigit_of_mem_replicate) digits.digits
  have number : ofDigits (['0'] ++ (List.replicate n '0' ++ ds)) = ofDigits ds := by
    rw [← List.append_assoc, ofDigits_append, List.singleton_append, ← List.replicate_succ,
      ofDigits_replicate_zero, Nat.zero_mul, Nat.zero_add]
  have denotes := denotes_pointed negative digits_zero (.inl rfl) fraction (number.symm ▸ fits)
    (by rw [List.length_append, List.length_replicate]; omega)
  have places : -((List.replicate n '0' ++ ds).length : Int) = -n - ds.length := by
    rw [List.length_append, List.length_replicate]
    omega
  rw [number, places] at denotes
  exact ⟨_, denotes⟩

/-- Digits with the point behind the first one, and an exponent. -/
theorem denotes_scientific (digits : Digits ds) (leading : ds.head? ≠ some '0')
    (fits : ofDigits ds < significandBound) (short : ds.length < 2 ^ 30) (first : Int)
    (near : first.natAbs < 2 ^ 30) :
    ∃ m, Denotes m negative (scientific ds first).toList (ofDigits ds) (first + 1 - ds.length) := by
  obtain ⟨d, rest, rfl⟩ := List.exists_cons_of_ne_nil digits.some
  have exponent : Digits (Nat.toDigits 10 first.natAbs) := ⟨Nat.toDigits_ne_nil, digits_toDigits _⟩
  obtain ⟨digit, later⟩ := List.forall_mem_cons.mp digits.digits
  -- There is no point where there is but one digit.
  obtain ⟨fraction, shown, rest_eq, some_of⟩ : ∃ fraction : Option (List Char),
      (if rest.isEmpty then "" else "." ++ String.ofList rest).toList = fractionChars fraction
        ∧ fraction.getD [] = rest ∧ ∀ es, fraction = some es → es ≠ [] ∧ es = rest := by
    cases rest with
    | nil => exact ⟨none, rfl, rfl, fun es same => by cases same⟩
    | cons c cs =>
      refine ⟨some (c :: cs), by simp [fractionChars], rfl, fun es same => ?_⟩
      obtain rfl := Option.some.inj same
      exact ⟨List.cons_ne_nil c cs, rfl⟩
  have power : writtenPower (some (decide (first < 0), Nat.toDigits 10 first.natAbs)) = first := by
    simp only [writtenPower, ofDigits_toDigits, decide_eq_true_eq]
    omega
  refine ⟨⟨negative, [d], fraction, some (decide (first < 0), Nat.toDigits 10 first.natAbs)⟩, ?_, ?_, ?_⟩
  · refine ⟨⟨List.cons_ne_nil d [], by simpa using digit⟩, .inr leading, ?_,
      fun p same => Option.some.inj same ▸ exponent⟩
    intro es same
    obtain ⟨more, rfl⟩ := some_of es same
    exact ⟨more, later⟩
  · have sign : (if first < 0 then "-" else "+").toList = [if decide (first < 0) then '-' else '+'] := by
      split <;> simp_all
    have magnitude : (toString first.natAbs).toList = Nat.toDigits 10 first.natAbs := Nat.toList_repr
    have mark : "e".toList = ['e'] := rfl
    simp only [scientific, String.toList_append, List.drop_succ_cons, List.drop_zero, List.take_succ_cons,
      List.take_zero, String.toList_ofList, shown, sign, magnitude, mark, Numeral.chars, powerChars,
      List.append_assoc, List.cons_append, List.nil_append]
  · have whole : [d] ++ fraction.getD [] = d :: rest := by rw [rest_eq]; rfl
    refine (Numeral.value_of_fits _ (.inr (Option.some_ne_none _)) ?_ ?_ ?_).trans ?_
    · rwa [Numeral.digits, whole]
    · rw [List.length_cons] at short
      rw [rest_eq]
      omega
    · rwa [power]
    · rw [Numeral.digits, whole, power, rest_eq, List.length_cons]
      congr 1
      push_cast
      ring

/-! ## Numbers -/

/-- Digits in the layout of JSON. -/
def laidOut (ds : List Char) (power : Int) : String :=
  if json.positional (ds.length + power - 1) then json.positionally ds power
  else scientific ds (ds.length + power - 1)

theorem magnitude_eq {s : Nat} (pos : 0 < s) (e : Int) : json.magnitude s e
    = laidOut (Nat.toDigits 10 (Binary64.shortest .even s e).1) (Binary64.shortest .even s e).2 := by
  have tie : json.tie = .even := rfl
  rw [Layout.magnitude, if_neg pos.ne', tie]
  generalize Binary64.shortest .even s e = d
  obtain ⟨n, power⟩ := d
  have digits : (toString n).toList = Nat.toDigits 10 n := Nat.toList_repr
  simp only [digits, laidOut]

/-- The digits of a positive number of the format mean a finite number, however they are laid out. -/
theorem exists_denotes_laidOut {number : Nat} (negative : Bool) (pos : 0 < number)
    (le : number ≤ 10 ^ 17) (low : -400 < power) (high : power < 400)
    (scaled : ∃ y, scale (.ofRatio false number 1) power 4 = some y ∧ y.isFinite = true) :
    ∃ m significand p, Denotes m negative (laidOut (Nat.toDigits 10 number) power).toList significand p
      ∧ ∃ y, scale (.ofRatio false significand 1) p 4 = some y ∧ y.isFinite = true := by
  have digits : Digits (Nat.toDigits 10 number) := ⟨Nat.toDigits_ne_nil, digits_toDigits number⟩
  have leading := head?_toDigits pos
  have value := ofDigits_toDigits number
  have length : (Nat.toDigits 10 number).length ≤ 18 :=
    (Nat.length_toDigits_le_iff (by decide) (by decide)).mpr (by omega)
  have bound : significandBound = 2 ^ 64 := rfl
  have fits : ofDigits (Nat.toDigits 10 number) < significandBound := by omega
  generalize Nat.toDigits 10 number = ds at *
  have some := List.length_pos_iff.mpr digits.some
  rw [laidOut]
  have positional : json.positional (ds.length + power - 1)
      = (decide (-5 ≤ ds.length + power - 1) && decide (ds.length + power - 1 < 16)) := rfl
  rw [positional]
  by_cases near : (decide (-5 ≤ ds.length + power - 1) && decide (ds.length + power - 1 < 16)) = true
  · rw [if_pos near, Layout.positionally]
    simp only [Bool.and_eq_true, decide_eq_true_eq] at near
    by_cases whole : 0 ≤ power
    · obtain ⟨n, rfl⟩ := Int.eq_ofNat_of_zero_le whole
      have short : ds.length + n ≤ 16 := by omega
      obtain ⟨m, denotes⟩ := denotes_whole negative digits leading short
      refine ⟨m, _, -1, ?_, exists_scale_of_lt (whole_lt digits short).le (by decide) 4⟩
      rw [if_pos whole, String.toList_append, String.toList_append, String.toList_ofList, zeros,
        String.toList_ofList]
      exact denotes
    · rw [if_neg whole]
      by_cases between : 0 < ds.length + power
      · obtain ⟨n, point⟩ := Int.eq_ofNat_of_zero_le between.le
        obtain ⟨m, denotes⟩ := denotes_between negative digits leading fits (by omega)
          (by omega : 0 < n) (by omega)
        refine ⟨m, number, power, ?_, scaled⟩
        rw [if_pos between, point, Int.toNat_natCast, String.toList_append, String.toList_append,
          List.append_assoc, String.toList_ofList, String.toList_ofList, String.toList_ofList]
        have places : (n : Int) - ds.length = power := by omega
        rw [value, places] at denotes
        exact denotes
      · obtain ⟨n, point⟩ := Int.exists_eq_neg_ofNat (not_lt.mp between)
        obtain ⟨m, denotes⟩ := denotes_below negative digits fits (by omega : ds.length + n < 2 ^ 30)
        refine ⟨m, number, power, ?_, scaled⟩
        rw [if_neg between, point, neg_neg, zeros, Int.toNat_natCast, String.toList_append, String.toList_append,
          List.append_assoc, String.toList_ofList, String.toList_ofList, String.toList_ofList]
        have places : -(n : Int) - ds.length = power := by omega
        rw [value, places] at denotes
        exact denotes
  · rw [if_neg near]
    obtain ⟨m, denotes⟩ := denotes_scientific negative digits leading fits (by omega)
      (ds.length + power - 1) (by omega)
    have places : (ds.length : Int) + power - 1 + 1 - ds.length = power := by omega
    rw [value, places] at denotes
    exact ⟨m, number, power, denotes, scaled⟩

end Layouts

theorem isFinite_withSign (negative : Bool) (x : Binary64) : (withSign negative x).isFinite = x.isFinite := by
  cases x <;> rfl

/-- A finite number is written as a number of JSON, and that is read as a finite number. -/
theorem exists_numeral_write (negative : Bool) {s : Nat} {e : Int} (fits : Binary64.Fits s e) :
    ∃ m : Numeral, m.Formed ∧ m.chars = (json.write (.finite negative s e)).toList
      ∧ ∃ y, m.value = some (.real y) ∧ y.isFinite = true := by
  obtain ⟨m, significand, power, denotes, x, scaled, finite⟩ : ∃ m significand power,
      Denotes m negative (json.magnitude s e).toList significand power
        ∧ ∃ x, scale (.ofRatio false significand 1) power 4 = some x ∧ x.isFinite = true := by
    rcases Nat.eq_zero_or_pos s with rfl | pos
    · rw [Layout.magnitude, if_pos rfl, String.toList_append]
      exact ⟨_, 0, -1, denotes_pointed negative digits_zero (.inl rfl) digits_zero (by decide) (by decide),
        exists_scale_of_lt (by decide) (by decide) 4⟩
    · obtain ⟨number_pos, number_le, -, low, high⟩ := Binary64.shortest_spec .even fits pos
      rw [magnitude_eq pos]
      exact exists_denotes_laidOut negative number_pos number_le low high (exists_scale_shortest fits pos)
  refine ⟨m, denotes.formed, ?_, withSign negative x, ?_, by rw [isFinite_withSign, finite]⟩
  · rw [denotes.chars, Layout.write, String.toList_append]
    cases negative <;> rfl
  · rw [denotes.value, realOf, scaled, Option.map_some]

end ActionBridge.Json
