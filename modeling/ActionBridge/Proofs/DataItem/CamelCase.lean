import ActionBridge.Proofs.DataItem
import Mathlib.Data.List.Chain

/-!
# Camel case

The name of an action in camel case is cut where its words meet, also where one of them is an acronym:
its data item has these words in lower case, with an underscore between each two (`name_join`). Within
a word no other word begins (`Unbroken`), since only a capital begins one, and a capital behind a
capital does so only in front of a small letter.
-/
namespace ActionBridge.DataItem

variable {initial c : Char} {cs rest word : List Char} {ws : List (List Char)}
  {previous next : Option Char}

/-! ## Stretches within a word -/

/-- Every character of the stretch goes on with the word of the character in front of it, which is
    `previous` for the first one. What stands behind the stretch is `next`. -/
def Unbroken (previous : Option Char) : List Char → Option Char → Prop
  | [], _ => True
  | c :: cs, next => isSeparator c = false ∧ startsWord previous c (cs.head?.or next) = false
      ∧ Unbroken (some c) cs next

theorem foldr_consLower (cs word : List Char) (later : List (List Char)) :
    cs.foldr consLower (word :: later) = (cs.map Char.toLower ++ word) :: later := by
  induction cs with
  | nil => rfl
  | cons c cs ih => rw [List.foldr_cons, ih, consLower, List.map_cons, List.cons_append]

/-- A stretch within a word stands in front of the first word of what is behind it. -/
theorem wordsAfter_append (whole : Unbroken previous cs rest.head?) :
    wordsAfter previous (cs ++ rest)
      = cs.foldr consLower (wordsAfter (cs.getLast?.or previous) rest) := by
  induction cs generalizing previous with
  | nil => rfl
  | cons c cs ih =>
    obtain ⟨letter, goesOn, later⟩ := whole
    have last : (c :: cs).getLast?.or previous = cs.getLast?.or (some c) := by
      rw [List.getLast?_cons]
      cases cs.getLast? <;> rfl
    rw [List.cons_append, wordsAfter, List.head?_append, letter, goesOn, ih later, last]
    rfl

/-- Only a capital begins a word. -/
theorem unbroken_of_small (small : ∀ c ∈ cs, isSeparator c = false ∧ c.isUpper = false) :
    Unbroken previous cs next := by
  induction cs generalizing previous with
  | nil => trivial
  | cons c cs ih =>
    obtain ⟨⟨letter, low⟩, later⟩ := List.forall_mem_cons.mp small
    exact ⟨letter, by rw [startsWord, low, Bool.false_and], ih later⟩

theorem isSeparator_of_isUpper (capital : c.isUpper = true) : isSeparator c = false :=
  isSeparator_of_isAlphanum (Text.isAlphanum_iff.mpr (.inl capital))

/-- Capitals behind a capital begin no word, unless a small letter follows them. -/
theorem unbroken_of_capitals (capital : initial.isUpper = true)
    (capitals : ∀ c ∈ cs, c.isUpper = true) (ends : next.any Char.isLower = false) :
    Unbroken (some initial) cs next := by
  induction cs generalizing initial with
  | nil => trivial
  | cons c cs ih =>
    obtain ⟨here, later⟩ := List.forall_mem_cons.mp capitals
    have follows : (cs.head?.or next).any Char.isLower = false := by
      cases cs with
      | nil => exact ends
      | cons d cs => exact Text.isLower_of_isUpper (later d List.mem_cons_self)
    refine ⟨isSeparator_of_isUpper here, ?_, ih here later⟩
    rw [startsWord, Option.any_some, capital, follows, Bool.not_true, Bool.or_false, Bool.and_false]

/-! ## Shapes of words -/

/-- A capital, a small letter, and then small letters and digits. -/
def isCapitalized : List Char → Bool
  | initial :: second :: rest =>
    initial.isUpper && second.isLower && rest.all fun c => c.isLower || c.isDigit
  | _ => false

/-- Capitals, at least one. -/
def isAcronym (word : List Char) : Bool :=
  !word.isEmpty && word.all Char.isUpper

def IsWord (word : List Char) : Prop := isCapitalized word = true ∨ isAcronym word = true

instance : DecidablePred IsWord := fun word =>
  inferInstanceAs (Decidable (isCapitalized word = true ∨ isAcronym word = true))

/-- Capitalized words and acronyms, no two of which are acronyms next to each other. -/
structure CamelCase (ws : List (List Char)) : Prop where
  shaped : ∀ w ∈ ws, IsWord w
  apart : ws.IsChain fun v w => ¬ (isAcronym v = true ∧ isAcronym w = true)

theorem IsWord.exists_initial (shaped : IsWord word) : ∃ initial rest,
    word = initial :: rest ∧ initial.isUpper = true := by
  rcases shaped with capitalized | acronym
  · match word, capitalized with
    | initial :: second :: rest, shape =>
      simp only [isCapitalized, Bool.and_eq_true] at shape
      exact ⟨initial, second :: rest, rfl, shape.1.1⟩
  · cases word with
    | nil => exact absurd acronym (by decide)
    | cons initial rest =>
      simp only [isAcronym, List.isEmpty_cons, Bool.not_false, List.all_cons, Bool.true_and,
        Bool.and_eq_true] at acronym
      exact ⟨initial, rest, rfl, acronym.1⟩

theorem IsWord.isUpper (shaped : IsWord (initial :: rest)) : initial.isUpper = true := by
  obtain ⟨_, _, same, capital⟩ := shaped.exists_initial
  rwa [(List.cons.inj same).1]

/-- Behind the capital of a capitalized word there are no more, and a small letter comes first. -/
theorem small_of_isCapitalized (shape : isCapitalized (initial :: rest) = true) :
    (∃ second later, rest = second :: later ∧ second.isLower = true)
      ∧ ∀ c ∈ rest, isSeparator c = false ∧ c.isUpper = false := by
  cases rest with
  | nil => exact absurd shape (by simp [isCapitalized])
  | cons second later =>
    simp only [isCapitalized, Bool.and_eq_true, List.all_eq_true, Bool.or_eq_true] at shape
    obtain ⟨⟨-, small⟩, others⟩ := shape
    refine ⟨⟨second, later, rfl, small⟩, fun c member => ?_⟩
    have letter : c.isLower = true ∨ c.isDigit = true := by
      rcases List.mem_cons.mp member with rfl | behind
      · exact .inl small
      · exact others c behind
    exact ⟨isSeparator_of_isAlphanum (Text.isAlphanum_iff.mpr (.inr letter)),
      letter.elim Text.isUpper_of_isLower Text.isUpper_of_isDigit⟩

theorem capitals_of_isAcronym (shape : isAcronym (initial :: rest) = true) :
    initial.isUpper = true ∧ ∀ c ∈ rest, c.isUpper = true := by
  simpa [isAcronym] using shape

/-- No word begins within a word. -/
theorem IsWord.unbroken (shaped : IsWord (initial :: rest)) (ends : next.any Char.isLower = false) :
    Unbroken (some initial) rest next := by
  rcases shaped with capitalized | acronym
  · exact unbroken_of_small (small_of_isCapitalized capitalized).2
  · obtain ⟨capital, capitals⟩ := capitals_of_isAcronym acronym
    exact unbroken_of_capitals capital capitals ends

/-! ## Where words meet -/

theorem CamelCase.tail (camel : CamelCase (word :: ws)) : CamelCase ws :=
  ⟨fun w member => camel.shaped w (List.mem_cons_of_mem _ member), camel.apart.tail⟩

/-- What begins with a word does not begin with a small letter. -/
theorem head?_flatten_of_camelCase (camel : CamelCase ws) : ws.flatten.head?.any Char.isLower = false := by
  cases ws with
  | nil => rfl
  | cons w ws =>
    obtain ⟨initial, rest, rfl, capital⟩ := (camel.shaped w List.mem_cons_self).exists_initial
    exact Text.isLower_of_isUpper capital

/-- A word begins behind another one, as one of the two is capitalized. -/
theorem startsWord_of_apart {last : Char} {behind : List Char}
    (first : IsWord (c :: cs)) (second : IsWord (initial :: rest))
    (apart : ¬ (isAcronym (c :: cs) = true ∧ isAcronym (initial :: rest) = true))
    (ends : cs.getLast?.or (some c) = some last) :
    startsWord (some last) initial (rest ++ behind).head? = true := by
  rw [startsWord, second.isUpper, Bool.true_and, Option.any_some, Bool.or_eq_true]
  rcases second with capitalized | acronym
  · obtain ⟨⟨next, later, rfl, small⟩, -⟩ := small_of_isCapitalized capitalized
    exact .inr small
  · obtain capitalized := first.resolve_right fun other => apart ⟨other, acronym⟩
    obtain ⟨⟨next, later, rfl, -⟩, small⟩ := small_of_isCapitalized capitalized
    have inside : last ∈ next :: later := by
      rw [List.getLast?_cons, Option.some_or] at ends
      exact List.mem_of_getLast? (List.getLast?_cons.trans ends)
    exact .inl (by rw [(small last inside).2]; rfl)

theorem consLower_wordsAfter (camel : CamelCase ((initial :: rest) :: ws)) :
    consLower initial (wordsAfter (some initial) (rest ++ ws.flatten))
      = ((initial :: rest) :: ws).map (List.map Char.toLower) := by
  induction ws generalizing initial rest with
  | nil =>
    have whole : Unbroken (some initial) rest none :=
      (camel.shaped _ List.mem_cons_self).unbroken rfl
    rw [List.flatten_nil, wordsAfter_append whole, wordsAfter, foldr_consLower, List.append_nil]
    rfl
  | cons word ws ih =>
    obtain ⟨c, cs, rfl, capital⟩ := (camel.tail.shaped _ List.mem_cons_self).exists_initial
    have shaped := camel.shaped _ List.mem_cons_self
    -- what is left of the first word goes on with it, and the next one begins right behind
    have whole : Unbroken (some initial) rest (((c :: cs) :: ws).flatten).head? :=
      shaped.unbroken (head?_flatten_of_camelCase camel.tail)
    obtain ⟨last, ends⟩ : ∃ last, rest.getLast?.or (some initial) = some last := by
      cases rest.getLast? with
      | none => exact ⟨initial, rfl⟩
      | some last => exact ⟨last, rfl⟩
    have starts : startsWord (some last) c (cs ++ ws.flatten).head? = true :=
      startsWord_of_apart shaped (camel.tail.shaped _ List.mem_cons_self)
        (List.isChain_cons_cons.mp camel.apart).1 ends
    rw [wordsAfter_append whole, ends, List.flatten_cons, List.cons_append, wordsAfter,
      isSeparator_of_isUpper capital, starts, ih camel.tail]
    simp only [Bool.false_eq_true, if_false, if_true]
    rw [foldr_consLower, List.append_nil]
    rfl

/-- The words of a text in camel case are those that it is put together from. -/
theorem words_flatten (camel : CamelCase ws) : words ws.flatten = ws.map (List.map Char.toLower) := by
  cases ws with
  | nil => rfl
  | cons word ws =>
    obtain ⟨initial, rest, rfl, capital⟩ := (camel.shaped _ List.mem_cons_self).exists_initial
    have goesOn : startsWord none initial (rest ++ ws.flatten).head? = false := by
      rw [startsWord, Option.any_none, Bool.and_false]
    rw [words, List.flatten_cons, List.cons_append, wordsAfter, isSeparator_of_isUpper capital, goesOn,
      consLower_wordsAfter camel]
    refine List.filter_eq_self.mpr fun w member => ?_
    obtain ⟨v, among, rfl⟩ := List.mem_map.mp member
    obtain ⟨c, cs, rfl, -⟩ := (camel.shaped v among).exists_initial
    rfl

/-- The data item of an action in camel case has its words in lower case, with an underscore between
    each two. -/
theorem name_join {names : List String} (camel : CamelCase (names.map String.toList)) :
    name (String.join names) = "_".intercalate (names.map Text.lower) := by
  have chars : (String.join names).toList = (names.map String.toList).flatten := by
    rw [String.toList_join, List.flatMap_def]
  have lowered : (names.map String.toList).map (List.map Char.toLower)
      = (names.map Text.lower).map String.toList := by
    simp only [List.map_map, Function.comp_def, Text.toList_lower]
  apply String.toList_injective
  rw [name, String.toList_ofList, chars, words_flatten camel, lowered, String.toList_intercalate]
  rfl

theorem name_join_acronyms :
    CamelCase (["A", "Load", "CNC", "Door2", "X"].map String.toList)
      ∧ name "ALoadCNCDoor2X" = "a_load_cnc_door2_x" := by
  have camel : CamelCase (["A", "Load", "CNC", "Door2", "X"].map String.toList) :=
    ⟨by decide, by decide⟩
  have text : String.join ["A", "Load", "CNC", "Door2", "X"] = "ALoadCNCDoor2X" := by decide +kernel
  have lower : "_".intercalate (["A", "Load", "CNC", "Door2", "X"].map Text.lower)
      = "a_load_cnc_door2_x" := by decide +kernel
  refine ⟨camel, ?_⟩
  rw [← text, ← lower]
  exact name_join camel

end ActionBridge.DataItem
