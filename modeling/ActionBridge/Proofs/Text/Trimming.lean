import ActionBridge.Text.Blank
import Mathlib.Data.List.TakeWhile

/-!
# Trimming

Trimming the end does not see a stretch that it removes anyway, and trimming both ends leaves what
begins and ends with something that stays (`stripWhile_append_append`). What is left is a part of the
text, with all that does not have to go, and has nothing to be removed at its ends.
-/
namespace ActionBridge.Text

/-! ## The end -/

variable {α : Type} {p : α → Bool} {xs ys : List α}

theorem dropEndWhile_append_of_all (all : ∀ y ∈ ys, p y = true) (xs : List α) :
    dropEndWhile p (xs ++ ys) = dropEndWhile p xs := by
  rw [dropEndWhile, List.reverse_append,
    List.dropWhile_append_of_pos fun y member => all y (List.mem_reverse.mp member), dropEndWhile]

/-- Nothing is removed behind an element that stays. -/
theorem dropEndWhile_eq_self (solid : ∀ x, xs.getLast? = some x → p x = false) :
    dropEndWhile p xs = xs := by
  rcases List.eq_nil_or_concat xs with rfl | ⟨ys, x, rfl⟩
  · rfl
  · rw [List.concat_eq_append] at solid ⊢
    have stays : p x = false := solid x (by simp)
    rw [dropEndWhile, List.reverse_append, List.reverse_singleton, List.singleton_append,
      List.dropWhile_cons_of_neg (by simp [stays]), List.reverse_cons, List.reverse_reverse]

/-! ## Both ends -/

/-- What stays stands behind and in front of what is removed. -/
theorem stripWhile_append_append {before after core : List α} (front : ∀ x ∈ before, p x = true)
    (back : ∀ x ∈ after, p x = true) (first : ∀ x, core.head? = some x → p x = false)
    (last : ∀ x, core.getLast? = some x → p x = false) : stripWhile p (before ++ core ++ after) = core := by
  rw [stripWhile, List.append_assoc, List.dropWhile_append_of_pos front]
  cases core with
  | nil =>
    rw [List.nil_append, List.dropWhile_eq_nil_iff.mpr back]
    rfl
  | cons c cs =>
    rw [List.cons_append, List.dropWhile_cons_of_neg (by simp [first c rfl]), ← List.cons_append,
      dropEndWhile_append_of_all back, dropEndWhile_eq_self last]

theorem stripWhile_eq_self (first : ∀ x, xs.head? = some x → p x = false)
    (last : ∀ x, xs.getLast? = some x → p x = false) : stripWhile p xs = xs := by
  have none : ∀ x ∈ ([] : List α), p x = true := fun _ absent => absurd absent List.not_mem_nil
  simpa using stripWhile_append_append none none first last

theorem mem_of_mem_stripWhile {x : α} (member : x ∈ stripWhile p xs) : x ∈ xs := by
  have inside : x ∈ (xs.dropWhile p).reverse :=
    (List.dropWhile_sublist p).subset (List.mem_reverse.mp member)
  exact (List.dropWhile_sublist p).subset (List.mem_reverse.mp inside)

theorem mem_dropWhile {x : α} (member : x ∈ xs) (stays : p x = false) : x ∈ xs.dropWhile p := by
  rw [← List.takeWhile_append_dropWhile (p := p) (l := xs), List.mem_append] at member
  exact member.resolve_left fun gone => by simp [List.mem_takeWhile_imp gone] at stays

theorem mem_stripWhile {x : α} (member : x ∈ xs) (stays : p x = false) : x ∈ stripWhile p xs := by
  have inside : x ∈ (xs.dropWhile p).reverse := List.mem_reverse.mpr (mem_dropWhile member stays)
  exact List.mem_reverse.mpr (mem_dropWhile inside stays)

theorem stays_of_head?_dropWhile {x : α} (first : (xs.dropWhile p).head? = some x) : p x = false := by
  have stays := List.head?_dropWhile_not p xs
  rw [first] at stays
  simpa using stays

theorem stays_of_head?_stripWhile {x : α} (first : (stripWhile p xs).head? = some x) : p x = false := by
  have same : (xs.dropWhile p).head? = some x := by
    rw [← dropEndWhile_append p (xs.dropWhile p), List.head?_append, ← stripWhile, first, Option.some_or]
  exact stays_of_head?_dropWhile same

theorem stays_of_getLast?_stripWhile {x : α} (last : (stripWhile p xs).getLast? = some x) : p x = false := by
  rw [stripWhile, dropEndWhile, List.getLast?_reverse] at last
  exact stays_of_head?_dropWhile last

/-- A text without space has none at its ends. -/
theorem trim_eq_self {s : String} (solid : ∀ c ∈ s.toList, isBlank c = false) : trim s = s := by
  rw [trim, stripWhile_eq_self (fun c first => solid c (List.mem_of_head? first))
    (fun c last => solid c (List.mem_of_getLast? last)), String.ofList_toList]

end ActionBridge.Text
