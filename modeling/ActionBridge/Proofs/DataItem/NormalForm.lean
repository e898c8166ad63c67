import ActionBridge.Proofs.DataItem

/-!
# Normal form of names

The name of a data item is in a normal form: words without capitals, hyphens and space, with one
underscore between each two. It is its own name, and without the underscores it is the name of the
action without separators, in lower case (`name_normalizes`).
-/
namespace ActionBridge.DataItem

variable {cs : List Char} {c : Char} {action : String}

/-- Words without capitals, hyphens and space, with one underscore between each two. -/
structure Normal (name : String) : Prop where
  lower : ∀ c ∈ name.toList, c.isUpper = false
  unhyphened : '-' ∉ name.toList
  solid : ∀ c ∈ name.toList, Text.isBlank c = false
  unopened : name.toList.head? ≠ some '_'
  unclosed : name.toList.getLast? ≠ some '_'
  single : ¬ ['_', '_'] <:+: name.toList

/-! ## Characters -/

theorem isSeparator_toLower (c : Char) : isSeparator c.toLower = isSeparator c := by
  rcases Text.toLower_cases c with ⟨capital, small⟩ | ⟨-, same⟩
  · rw [isSeparator_of_isAlphanum (Text.isAlphanum_iff.mpr (.inl capital)),
      isSeparator_of_isAlphanum (Text.isAlphanum_iff.mpr (.inr (.inl small)))]
  · rw [same]

/-- Underscores stand between words only. -/
theorem filter_intercalate (ws : List (List Char)) :
    (List.intercalate ['_'] ws).filter (· != '_') = ws.flatten.filter (· != '_') := by
  induction ws with
  | nil => rfl
  | cons w ws ih =>
    cases ws with
    | nil => rw [List.intercalate_singleton, List.flatten_singleton]
    | cons next ws =>
      rw [List.flatten_cons, List.filter_append, ← ih, List.intercalate_cons_cons, List.append_assoc,
        List.filter_append, List.singleton_append, List.filter_cons_of_neg (by decide)]

/-- Without its underscores a name is the action without separators, in lower case. -/
theorem filter_toList_name (action : String) :
    (name action).toList.filter (· != '_')
      = (action.toList.filter (!isSeparator ·)).map Char.toLower := by
  have clean : (words action.toList).flatten.filter (· != '_') = (words action.toList).flatten := by
    refine List.filter_eq_self.mpr fun c among => bne_iff_ne.mpr ?_
    rintro rfl
    obtain ⟨w, member, inside⟩ := List.mem_flatten.mp among
    exact underscore_notMem_of_mem_words member inside
  rw [name, String.toList_ofList, filter_intercalate, clean, flatten_words]

theorem small_of_mem_name (member : c ∈ (name action).toList) :
    c = '_' ∨ isSeparator c = false ∧ c.isUpper = false := by
  by_cases mark : c = '_'
  · exact .inl mark
  · have among : c ∈ (name action).toList.filter (· != '_') :=
      List.mem_filter.mpr ⟨member, bne_iff_ne.mpr mark⟩
    rw [filter_toList_name] at among
    obtain ⟨d, stays, rfl⟩ := List.mem_map.mp among
    have letter : isSeparator d = false := by simpa using (List.mem_filter.mp stays).2
    exact .inr ⟨(isSeparator_toLower d).trans letter, Text.isUpper_toLower d⟩

/-! ## Underscores -/

theorem splitAll_name (worded : words action.toList ≠ []) :
    Text.splitAll '_' (name action).toList = words action.toList := by
  rw [name, String.toList_ofList,
    Text.splitAll_intercalate (fun _ => underscore_notMem_of_mem_words) worded]

/-- There is a word on either side of an underscore. -/
theorem nil_notMem_splitAll {before after : List Char}
    (split : (name action).toList = before ++ '_' :: after) :
    [] ∉ Text.splitAll '_' before ∧ [] ∉ Text.splitAll '_' after := by
  have worded : words action.toList ≠ [] := by
    intro none
    have empty : name action = "" := by rw [name, none]; rfl
    rw [empty] at split
    exact absurd (congrArg List.length split) (by simp)
  have solid : [] ∉ words action.toList := fun member => ne_nil_of_mem_words member rfl
  rwa [← splitAll_name worded, split, Text.splitAll_append_sep, List.mem_append, not_or] at solid

theorem normal_name (action : String) : Normal (name action) := by
  have small : ∀ c ∈ (name action).toList,
      c.isUpper = false ∧ c ≠ '-' ∧ Text.isBlank c = false := by
    intro c member
    rcases small_of_mem_name member with rfl | ⟨letter, low⟩
    · decide
    · simp only [isSeparator, Bool.or_eq_false_iff, beq_eq_false_iff_ne] at letter
      exact ⟨low, letter.1.2, letter.2⟩
  refine ⟨fun c member => (small c member).1, fun member => (small '-' member).2.1 rfl,
    fun c member => (small c member).2.2, fun first => ?_, fun last => ?_, fun twice => ?_⟩
  · obtain ⟨after, split⟩ := List.head?_eq_some_iff.mp first
    rw [← List.nil_append ('_' :: after)] at split
    exact (nil_notMem_splitAll split).1 List.mem_cons_self
  · obtain ⟨before, split⟩ := List.getLast?_eq_some_iff.mp last
    exact (nil_notMem_splitAll split).2 List.mem_cons_self
  · obtain ⟨before, after, split⟩ := twice
    have second : (name action).toList = before ++ '_' :: '_' :: after := by simp [← split]
    exact (nil_notMem_splitAll second).2 List.mem_cons_self

/-! ## Names of names -/

/-- Without capitals only separators tell words apart. -/
theorem wordsAfter_of_small {previous : Option Char}
    (small : ∀ c ∈ cs, c = '_' ∨ isSeparator c = false ∧ c.isUpper = false) :
    wordsAfter previous cs = Text.splitAll '_' cs := by
  induction cs generalizing previous with
  | nil => rfl
  | cons c cs ih =>
    obtain ⟨here, later⟩ := List.forall_mem_cons.mp small
    rcases here with rfl | ⟨letter, low⟩
    · rw [wordsAfter, ih later, Text.splitAll]
      rfl
    · have goesOn : startsWord previous c cs.head? = false := by rw [startsWord, low, Bool.false_and]
      have other : (c == '_') = false := by
        simp only [isSeparator, Bool.or_eq_false_iff] at letter
        exact letter.1.1
      have behind : wordsAfter (some c) cs = Text.splitAll '_' cs := ih later
      rw [wordsAfter, letter, goesOn, behind, Text.splitAll, other]
      cases Text.splitAll '_' cs <;> simp [consLower, Text.toLower_eq_self low]

theorem name_name (action : String) : name (name action) = name action := by
  rw [name_eq_iff, words, wordsAfter_of_small fun _ => small_of_mem_name]
  by_cases worded : words action.toList = []
  · have empty : name action = "" := by rw [name, worded]; rfl
    rw [empty, worded]
    rfl
  · rw [splitAll_name worded]
    refine List.filter_eq_self.mpr fun w member => ?_
    simpa using ne_nil_of_mem_words member

/-- A name is in normal form and its own name, and has all characters of the action but the
    separators, in their order and in lower case. -/
theorem name_normalizes (action : String) : Normal (name action) ∧ name (name action) = name action
    ∧ (name action).toList.filter (· != '_')
      = (Text.lower action).toList.filter fun c => c != '_' && c != '-' && !Text.isBlank c := by
  refine ⟨normal_name action, name_name action, ?_⟩
  have letters : (fun c => c != '_' && c != '-' && !Text.isBlank c) = fun c => !isSeparator c := by
    funext c
    simp only [isSeparator, Bool.not_or, bne]
  rw [filter_toList_name, Text.toList_lower, letters, List.filter_map]
  exact congrArg (fun p => (action.toList.filter p).map Char.toLower)
    (funext fun c => by rw [Function.comp_apply, isSeparator_toLower])

example : name "-My  CNCMaterial__load -" = "my_cnc_material_load" := by decide +kernel

end ActionBridge.DataItem
