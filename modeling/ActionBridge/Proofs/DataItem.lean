import ActionBridge.DataItem
import ActionBridge.Proofs.Text.Splitting

/-!
# Names of data items

The name of a data item has what is left of the name of its action without separators, in lower
case (`flatten_words`). It tells actions apart exactly as their words do (`name_eq_iff`), so it does
not see how the words are told from each other, nor capitals.
-/
namespace ActionBridge.DataItem

variable {cs : List Char} {word : List Char}

/-! ## Words -/

/-- Letters and digits are no separators. -/
theorem isSeparator_of_isAlphanum {c : Char} (letter : c.isAlphanum = true) : isSeparator c = false := by
  have underscore : c ≠ '_' := by
    rintro rfl
    exact absurd letter (by decide)
  have hyphen : c ≠ '-' := by
    rintro rfl
    exact absurd letter (by decide)
  simp [isSeparator, underscore, hyphen, Text.isBlank_of_isAlphanum letter]

theorem flatten_consLower (c : Char) (ws : List (List Char)) :
    (consLower c ws).flatten = c.toLower :: ws.flatten := by
  cases ws <;> rfl

theorem flatten_wordsAfter (previous : Option Char) (cs : List Char) :
    (wordsAfter previous cs).flatten = (cs.filter (!isSeparator ·)).map Char.toLower := by
  induction cs generalizing previous with
  | nil => rfl
  | cons c rest ih =>
    rw [wordsAfter]
    by_cases separates : isSeparator c = true
    · rw [if_pos separates, List.filter_cons_of_neg (by simp [separates]), ← ih none]
      rfl
    · rw [if_neg separates, List.filter_cons_of_pos (by simp [separates]), List.map_cons,
        ← ih (some c), ← flatten_consLower]
      split <;> rfl

/-- The words have all characters but the separators, in lower case. -/
theorem flatten_words (cs : List Char) :
    (words cs).flatten = (cs.filter (!isSeparator ·)).map Char.toLower := by
  rw [words, List.flatten_filter_not_isEmpty, flatten_wordsAfter]

theorem ne_nil_of_mem_words (member : word ∈ words cs) : word ≠ [] := by
  rintro rfl
  exact absurd (List.mem_filter.mp member).2 (by simp)

theorem underscore_notMem_of_mem_words (member : word ∈ words cs) : '_' ∉ word := by
  intro mark
  have among : '_' ∈ (words cs).flatten := List.mem_flatten.mpr ⟨word, member, mark⟩
  rw [flatten_words] at among
  obtain ⟨c, stays, lower⟩ := List.mem_map.mp among
  obtain rfl : c = '_' := Text.eq_of_toLower_eq (by decide) lower
  exact absurd (List.mem_filter.mp stays).2 (by decide)

/-- A text of separators has no words. -/
theorem words_eq_nil_iff : words cs = [] ↔ ∀ c ∈ cs, isSeparator c = true := by
  have letters : words cs = [] ↔ (words cs).flatten = [] := by
    refine ⟨fun none => by rw [none, List.flatten_nil], fun none => ?_⟩
    refine List.eq_nil_iff_forall_not_mem.mpr fun word member => ?_
    exact ne_nil_of_mem_words member (List.flatten_eq_nil_iff.mp none word member)
  rw [letters, flatten_words, List.map_eq_nil_iff, List.filter_eq_nil_iff]
  simp

/-! ## Names -/

theorem intercalate_words_eq_nil_iff : List.intercalate ['_'] (words cs) = [] ↔ words cs = [] := by
  refine ⟨fun none => ?_, fun none => by rw [none]; rfl⟩
  cases split : words cs with
  | nil => rfl
  | cons word rest =>
    have solid : word ≠ [] := ne_nil_of_mem_words (split ▸ List.mem_cons_self)
    rw [split] at none
    cases rest with
    | nil => exact absurd (List.intercalate_singleton.symm.trans none) solid
    | cons next rest =>
      rw [List.intercalate_cons_cons] at none
      exact absurd none (by simp)

/-- The name is empty for an action of separators. -/
theorem name_eq_empty_iff (action : String) :
    name action = "" ↔ ∀ c ∈ action.toList, isSeparator c = true := by
  rw [← words_eq_nil_iff, ← intercalate_words_eq_nil_iff, name, String.ofList_eq_empty_iff]

/-- Two actions have one data item exactly if they have the same words. -/
theorem name_eq_iff (a b : String) : name a = name b ↔ words a.toList = words b.toList := by
  refine ⟨fun same => ?_, fun same => by rw [name, name, same]⟩
  have joined : List.intercalate ['_'] (words a.toList) = List.intercalate ['_'] (words b.toList) :=
    String.ofList_injective same
  by_cases none : words a.toList = []
  · rw [none, eq_comm, ← intercalate_words_eq_nil_iff, ← joined, none]
    rfl
  · have other : words b.toList ≠ [] := by
      rwa [Ne, ← intercalate_words_eq_nil_iff, ← joined, intercalate_words_eq_nil_iff]
    rw [← Text.splitAll_intercalate (fun _ => underscore_notMem_of_mem_words) none, joined,
      Text.splitAll_intercalate (fun _ => underscore_notMem_of_mem_words) other]

example : name "MaterialLoad" = name "material-load" := by decide +kernel
example : name "MaterialLoad" ≠ name "Materialload" := by decide +kernel

end ActionBridge.DataItem
