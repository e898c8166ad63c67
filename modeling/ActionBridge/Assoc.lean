/-!
# Association lists

Lists of keys and values in which a key keeps the position where it first came and the value
that it was given last.
-/
namespace ActionBridge.Assoc

variable {κ α : Type} [DecidableEq κ]

/-- Gives `key` the value `value`: in its place if the list has the key, at the end if not. -/
def put (key : κ) (value : α) : List (κ × α) → List (κ × α)
  | [] => [(key, value)]
  | (k, old) :: rest => if k = key then (k, value) :: rest else (k, old) :: put key value rest

/-- The list that arises from putting the pairs in order. -/
def ofPairs (pairs : List (κ × α)) : List (κ × α) :=
  pairs.foldl (fun m (key, value) => put key value m) []

/-- The value of `key`. -/
def get? (key : κ) : List (κ × α) → Option α
  | [] => none
  | (k, value) :: rest => if k = key then some value else get? key rest

/-! ## What putting changes -/

theorem get?_put_self (key : κ) (value : α) (m : List (κ × α)) :
    get? key (put key value m) = some value := by
  induction m with
  | nil => simp [put, get?]
  | cons entry rest ih =>
    obtain ⟨k, old⟩ := entry
    by_cases h : k = key <;> simp [put, get?, h, ih]

theorem get?_put_of_ne {key other : κ} (h : other ≠ key) (value : α) (m : List (κ × α)) :
    get? other (put key value m) = get? other m := by
  induction m with
  | nil => simp [put, get?, Ne.symm h]
  | cons entry rest ih =>
    obtain ⟨k, old⟩ := entry
    by_cases hk : k = key
    · subst hk; simp [put, get?, Ne.symm h]
    · simp [put, get?, hk, ih]

/-- Putting keeps the keys, and adds the new one at the end if it was none of them. -/
theorem keys_put (key : κ) (value : α) (m : List (κ × α)) :
    (put key value m).map Prod.fst
      = if key ∈ m.map Prod.fst then m.map Prod.fst else m.map Prod.fst ++ [key] := by
  induction m with
  | nil => simp [put]
  | cons entry rest ih =>
    obtain ⟨k, old⟩ := entry
    by_cases hk : k = key
    · subst hk; simp [put]
    · simp only [put, if_neg hk, List.map_cons, ih, List.mem_cons, Ne.symm hk, false_or]
      split <;> simp

/-- An entry after putting is the new one or was there before. -/
theorem mem_put {key : κ} {value : α} {m : List (κ × α)} {e : κ × α} (h : e ∈ put key value m) :
    e = (key, value) ∨ e ∈ m := by
  induction m with
  | nil => simpa [put] using h
  | cons entry rest ih =>
    obtain ⟨k, old⟩ := entry
    by_cases hk : k = key
    · subst hk
      simp only [put, if_true, List.mem_cons] at h
      rcases h with h | h
      · exact .inl h
      · exact .inr (List.mem_cons_of_mem _ h)
    · simp only [put, if_neg hk, List.mem_cons] at h
      rcases h with h | h
      · exact .inr (h ▸ List.mem_cons_self)
      · exact (ih h).imp id (List.mem_cons_of_mem _)

/-- No key stands twice. -/
theorem nodup_keys_put {m : List (κ × α)} (h : (m.map Prod.fst).Nodup) (key : κ) (value : α) :
    ((put key value m).map Prod.fst).Nodup := by
  rw [keys_put]
  split
  · exact h
  · rename_i hk
    rw [List.nodup_append]
    refine ⟨h, by simp, ?_⟩
    intro a ha b hb
    rw [List.mem_singleton] at hb
    subst hb
    exact fun e => hk (e ▸ ha)

end ActionBridge.Assoc
