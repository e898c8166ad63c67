import ActionBridge.Text.Blank

/-!
# Splitting, classes of characters and letter case

Pieces without the separator, joined by it, are what splitting gives back. The first separator is
where the text in front of it has none. Lower case changes letters only.
-/
namespace ActionBridge.Text

/-! ## Splitting -/

section Splitting

variable {α : Type} [BEq α]

theorem splitAll_ne_nil (sep : α) (xs : List α) : splitAll sep xs ≠ [] := by
  cases xs with
  | nil => exact List.cons_ne_nil _ _
  | cons x xs =>
    rw [splitAll]
    split
    · exact List.cons_ne_nil _ _
    · split <;> exact List.cons_ne_nil _ _

variable [LawfulBEq α] {sep : α}

theorem splitAll_of_not_mem {xs : List α} (clean : sep ∉ xs) : splitAll sep xs = [xs] := by
  induction xs with
  | nil => rfl
  | cons x xs ih =>
    have other : (x == sep) = false := beq_false_of_ne fun same => clean (same ▸ List.mem_cons_self)
    rw [splitAll, other, ih fun member => clean (List.mem_cons_of_mem _ member)]
    rfl

theorem splitAll_append_sep (xs ys : List α) :
    splitAll sep (xs ++ sep :: ys) = splitAll sep xs ++ splitAll sep ys := by
  induction xs with
  | nil => simp [splitAll]
  | cons x xs ih =>
    rw [List.cons_append, splitAll, splitAll, ih]
    split
    · rfl
    · cases pieces : splitAll sep xs with
      | nil => exact absurd pieces (splitAll_ne_nil sep xs)
      | cons piece more => rfl

/-- The first piece ends at the first separator. -/
theorem splitAll_append_cons {xs : List α} (clean : sep ∉ xs) (ys : List α) :
    splitAll sep (xs ++ sep :: ys) = xs :: splitAll sep ys := by
  rw [splitAll_append_sep, splitAll_of_not_mem clean, List.singleton_append]

/-- Splitting undoes joining. -/
theorem splitAll_append_flatMap {pieces : List (List α)} (cleans : ∀ piece ∈ pieces, sep ∉ piece)
    (xs : List α) : splitAll sep (xs ++ pieces.flatMap (sep :: ·)) = splitAll sep xs ++ pieces := by
  induction pieces generalizing xs with
  | nil => rw [List.flatMap_nil, List.append_nil, List.append_nil]
  | cons piece pieces ih =>
    have clean : sep ∉ piece := cleans piece List.mem_cons_self
    rw [List.flatMap_cons, List.cons_append, splitAll_append_sep,
      ih (fun p member => cleans p (List.mem_cons_of_mem _ member)), splitAll_of_not_mem clean,
      List.singleton_append]

theorem splitAll_intercalate {pieces : List (List α)} (cleans : ∀ piece ∈ pieces, sep ∉ piece)
    (some : pieces ≠ []) : splitAll sep (List.intercalate [sep] pieces) = pieces := by
  induction pieces with
  | nil => exact absurd rfl some
  | cons piece pieces ih =>
    have clean : sep ∉ piece := cleans piece List.mem_cons_self
    cases pieces with
    | nil => rw [List.intercalate_singleton, splitAll_of_not_mem clean]
    | cons next pieces =>
      rw [List.intercalate_cons_cons, List.append_assoc, List.singleton_append,
        splitAll_append_cons clean,
        ih (fun p member => cleans p (List.mem_cons_of_mem _ member)) (List.cons_ne_nil _ _)]

theorem splitFirst_of_not_mem {xs : List α} (clean : sep ∉ xs) : splitFirst sep xs = none := by
  induction xs with
  | nil => rfl
  | cons x xs ih =>
    have other : (x == sep) = false := beq_false_of_ne fun same => clean (same ▸ List.mem_cons_self)
    rw [splitFirst, other, ih fun member => clean (List.mem_cons_of_mem _ member)]
    rfl

/-- What is behind the text does not count for its first separator. -/
theorem splitFirst_append (xs : List α) {ys : List α} (clean : sep ∉ ys) :
    splitFirst sep (xs ++ ys) = (splitFirst sep xs).map (Prod.map id (· ++ ys)) := by
  induction xs with
  | nil => exact splitFirst_of_not_mem clean
  | cons x xs ih =>
    rw [List.cons_append, splitFirst, splitFirst, ih]
    split
    · rfl
    · cases splitFirst sep xs <;> rfl

/-- The first piece is what stands in front of the first separator. -/
theorem head?_splitAll (xs : List α) : (splitAll sep xs).head? = some (xs.takeWhile (· != sep)) := by
  induction xs with
  | nil => rfl
  | cons x xs ih =>
    rw [splitAll]
    by_cases same : x = sep
    · simp [same]
    · have other : (x == sep) = false := beq_false_of_ne same
      cases pieces : splitAll sep xs with
      | nil => exact absurd pieces (splitAll_ne_nil sep xs)
      | cons piece more =>
        rw [pieces, List.head?_cons, Option.some.injEq] at ih
        simp [other, same, ih]

theorem notMem_of_mem_splitAll {xs piece : List α} (member : piece ∈ splitAll sep xs) : sep ∉ piece := by
  induction xs generalizing piece with
  | nil =>
    rw [splitAll, List.mem_singleton] at member
    rw [member]
    exact List.not_mem_nil
  | cons x xs ih =>
    rw [splitAll] at member
    by_cases same : x = sep
    · rw [if_pos (beq_iff_eq.mpr same)] at member
      rcases List.mem_cons.mp member with rfl | later
      · exact List.not_mem_nil
      · exact ih later
    · rw [if_neg (by simpa using same)] at member
      cases pieces : splitAll sep xs with
      | nil => exact absurd pieces (splitAll_ne_nil sep xs)
      | cons first more =>
        rw [pieces] at member ih
        rcases List.mem_cons.mp member with rfl | later
        · rw [List.mem_cons, not_or]
          exact ⟨Ne.symm same, ih List.mem_cons_self⟩
        · exact ih (List.mem_cons_of_mem _ later)

theorem splitFirst_append_cons {xs : List α} (clean : sep ∉ xs) (ys : List α) :
    splitFirst sep (xs ++ sep :: ys) = some (xs, ys) := by
  induction xs with
  | nil => rw [List.nil_append, splitFirst, if_pos (beq_self_eq_true sep)]
  | cons x xs ih =>
    rw [List.mem_cons, not_or] at clean
    have other : (x == sep) = false := beq_false_of_ne (Ne.symm clean.1)
    rw [List.cons_append, splitFirst, other, ih clean.2]
    rfl

theorem splitFirst_eq_some_iff {xs before after : List α} :
    splitFirst sep xs = some (before, after) ↔ xs = before ++ sep :: after ∧ sep ∉ before := by
  refine ⟨fun found => ?_, fun ⟨split, clean⟩ => split ▸ splitFirst_append_cons clean after⟩
  induction xs generalizing before with
  | nil => exact nomatch found
  | cons x xs ih =>
    rw [splitFirst] at found
    by_cases same : x = sep
    · rw [if_pos (beq_iff_eq.mpr same)] at found
      obtain ⟨rfl, rfl⟩ := Prod.mk.inj (Option.some.inj found)
      exact ⟨by rw [same, List.nil_append], List.not_mem_nil⟩
    · rw [if_neg (by simpa using same), Option.map_eq_some_iff] at found
      obtain ⟨⟨first, rest⟩, later, halves⟩ := found
      obtain ⟨rfl, rfl⟩ := Prod.mk.inj halves
      obtain ⟨rfl, clean⟩ := ih later
      refine ⟨rfl, ?_⟩
      rw [List.mem_cons, not_or]
      exact ⟨Ne.symm same, clean⟩

theorem splitLast_eq_some_iff {xs before after : List α} :
    splitLast sep xs = some (before, after) ↔ xs = before ++ sep :: after ∧ sep ∉ after := by
  have turned : xs.reverse = after.reverse ++ sep :: before.reverse ↔ xs = before ++ sep :: after := by
    rw [← List.reverse_inj, List.reverse_reverse]
    simp
  have split : splitLast sep xs = some (before, after)
      ↔ splitFirst sep xs.reverse = some (after.reverse, before.reverse) := by
    rw [splitLast, Option.map_eq_some_iff]
    constructor
    · rintro ⟨⟨last, rest⟩, found, same⟩
      obtain ⟨rfl, rfl⟩ := Prod.mk.inj same
      rw [found, List.reverse_reverse, List.reverse_reverse]
    · exact fun found =>
        ⟨_, found, Prod.ext (List.reverse_reverse before) (List.reverse_reverse after)⟩
  rw [split, splitFirst_eq_some_iff, turned, List.mem_reverse]

end Splitting

/-! ## Letters and digits -/

theorem isUpper_iff {c : Char} : c.isUpper = true ↔ 65 ≤ c.toNat ∧ c.toNat ≤ 90 := by
  show decide ('A'.val ≤ c.val ∧ c.val ≤ 'Z'.val) = true ↔ _
  rw [decide_eq_true_iff, UInt32.le_iff_toNat_le, UInt32.le_iff_toNat_le]
  rfl

theorem isLower_iff {c : Char} : c.isLower = true ↔ 97 ≤ c.toNat ∧ c.toNat ≤ 122 := by
  show (decide ('a'.val ≤ c.val) && decide (c.val ≤ 'z'.val)) = true ↔ _
  rw [Bool.and_eq_true, decide_eq_true_iff, decide_eq_true_iff, UInt32.le_iff_toNat_le,
    UInt32.le_iff_toNat_le]
  rfl

theorem isDigit_iff {c : Char} : c.isDigit = true ↔ 48 ≤ c.toNat ∧ c.toNat ≤ 57 := by
  show (decide ('0'.val ≤ c.val) && decide (c.val ≤ '9'.val)) = true ↔ _
  rw [Bool.and_eq_true, decide_eq_true_iff, decide_eq_true_iff, UInt32.le_iff_toNat_le,
    UInt32.le_iff_toNat_le]
  rfl

theorem isAlphanum_iff {c : Char} :
    c.isAlphanum = true ↔ c.isUpper = true ∨ c.isLower = true ∨ c.isDigit = true := by
  show ((c.isUpper || c.isLower) || c.isDigit) = true ↔ _
  rw [Bool.or_eq_true, Bool.or_eq_true, or_assoc]

theorem isUpper_of_isLower {c : Char} (small : c.isLower = true) : c.isUpper = false := by
  refine Bool.eq_false_iff.mpr fun capital => ?_
  rw [isUpper_iff] at capital
  rw [isLower_iff] at small
  omega

theorem isLower_of_isUpper {c : Char} (capital : c.isUpper = true) : c.isLower = false :=
  Bool.eq_false_iff.mpr fun small => by simp [isUpper_of_isLower small] at capital

theorem isUpper_of_isDigit {c : Char} (digit : c.isDigit = true) : c.isUpper = false := by
  refine Bool.eq_false_iff.mpr fun capital => ?_
  rw [isUpper_iff] at capital
  rw [isDigit_iff] at digit
  omega

theorem isBlank_of_isAlphanum {c : Char} (letter : c.isAlphanum = true) : isBlank c = false := by
  rw [isAlphanum_iff, isUpper_iff, isLower_iff, isDigit_iff] at letter
  simp only [isBlank, Bool.or_eq_false_iff, Bool.and_eq_false_iff, decide_eq_false_iff_not,
    beq_eq_false_iff_ne]
  omega

/-! ## Letter case -/

/-- A capital becomes a small letter, and all else stays. -/
theorem toLower_cases (c : Char) :
    c.isUpper = true ∧ c.toLower.isLower = true ∨ c.isUpper = false ∧ c.toLower = c := by
  unfold Char.toLower
  split
  · next upper =>
    have capital : c.isUpper = true := decide_eq_true upper
    have range := isUpper_iff.mp capital
    have code : (c.val + ('a'.val - 'A'.val)).toNat = (c.toNat + 32) % 4294967296 :=
      UInt32.toNat_add c.val 32
    refine .inl ⟨capital, isLower_iff.mpr ?_⟩
    show 97 ≤ (c.val + ('a'.val - 'A'.val)).toNat ∧ (c.val + ('a'.val - 'A'.val)).toNat ≤ 122
    omega
  · next other => exact .inr ⟨decide_eq_false other, rfl⟩

theorem isUpper_toLower (c : Char) : c.toLower.isUpper = false := by
  rcases toLower_cases c with ⟨-, small⟩ | ⟨other, same⟩
  · exact isUpper_of_isLower small
  · rw [same, other]

theorem toLower_eq_self {c : Char} (other : c.isUpper = false) : c.toLower = c := by
  rcases toLower_cases c with ⟨upper, -⟩ | ⟨-, same⟩
  · exact Bool.noConfusion (other.symm.trans upper)
  · exact same

/-- Only letters change when they are put in lower case. -/
theorem eq_of_toLower_eq {c mark : Char} (other : mark.isAlpha = false) (same : c.toLower = mark) :
    c = mark := by
  rcases toLower_cases c with ⟨-, small⟩ | ⟨-, stays⟩
  · have classes : mark.isAlpha = (mark.isUpper || mark.isLower) := rfl
    rw [classes, ← same, small, Bool.or_true] at other
    exact Bool.noConfusion other
  · exact stays.symm.trans same

theorem eq_of_map_toLower_eq {cs marks : List Char} (others : ∀ mark ∈ marks, mark.isAlpha = false)
    (same : cs.map Char.toLower = marks) : cs = marks := by
  induction cs generalizing marks with
  | nil => exact same
  | cons c cs ih =>
    subst same
    have head : c = c.toLower := eq_of_toLower_eq (others _ List.mem_cons_self) rfl
    have tail := ih (fun mark member => others mark (List.mem_cons_of_mem _ member)) rfl
    rw [List.map_cons, ← head, ← tail]

end ActionBridge.Text
