import ActionBridge.Assoc
import Mathlib.Data.List.Induction
import Mathlib.Data.List.Nodup

/-!
# Entries of association lists

In a list in which no key stands twice the entries are what the keys are looked up as.
-/
namespace ActionBridge.Assoc

variable {κ α : Type} [DecidableEq κ] {key : κ} {value : α} {m : List (κ × α)} {e : κ × α}

theorem mem_of_get?_eq_some (found : get? key m = some value) : (key, value) ∈ m := by
  induction m with
  | nil => simp [get?] at found
  | cons entry rest ih =>
    obtain ⟨k, old⟩ := entry
    by_cases same : k = key
    · subst same
      obtain rfl : old = value := by simpa [get?] using found
      exact List.mem_cons_self
    · rw [get?, if_neg same] at found
      exact List.mem_cons_of_mem _ (ih found)

theorem mem_keys_of_get?_eq_some (found : get? key m = some value) : key ∈ m.map Prod.fst :=
  List.mem_map.mpr ⟨_, mem_of_get?_eq_some found, rfl⟩

theorem notMem_keys_of_get?_eq_none (absent : get? key m = none) : key ∉ m.map Prod.fst := by
  induction m with
  | nil => simp
  | cons entry rest ih =>
    obtain ⟨k, old⟩ := entry
    by_cases same : k = key
    · simp [get?, same] at absent
    · rw [get?, if_neg same] at absent
      rw [List.map_cons, List.mem_cons, not_or]
      exact ⟨Ne.symm same, ih absent⟩

theorem get?_eq_some_iff (nodup : (m.map Prod.fst).Nodup) :
    get? key m = some value ↔ (key, value) ∈ m := by
  refine ⟨mem_of_get?_eq_some, fun member => ?_⟩
  cases found : get? key m with
  | none => exact absurd (List.mem_map.mpr ⟨_, member, rfl⟩) (notMem_keys_of_get?_eq_none found)
  | some other =>
    have same := List.inj_on_of_nodup_map nodup (mem_of_get?_eq_some found) member rfl
    rw [(Prod.mk.inj same).2]

/-- Putting a key that a list has changes no keys. -/
theorem keys_put_of_mem (present : key ∈ m.map Prod.fst) (value : α) :
    (put key value m).map Prod.fst = m.map Prod.fst := by
  rw [keys_put, if_pos present]

/-- A key that a list does not have is put at its end. -/
theorem put_of_notMem (absent : key ∉ m.map Prod.fst) (value : α) :
    put key value m = m ++ [(key, value)] := by
  induction m with
  | nil => rfl
  | cons entry rest ih =>
    rw [List.map_cons, List.mem_cons, not_or] at absent
    rw [put, if_neg (Ne.symm absent.1), ih absent.2, List.cons_append]

/-- An entry after putting is the new one, or an old one of another key. -/
theorem mem_put_iff (nodup : (m.map Prod.fst).Nodup) :
    e ∈ put key value m ↔ e = (key, value) ∨ e ∈ m ∧ e.1 ≠ key := by
  obtain ⟨k, old⟩ := e
  rw [← get?_eq_some_iff (nodup_keys_put nodup key value), ← get?_eq_some_iff nodup]
  by_cases same : k = key
  · subst same
    simp [get?_put_self, eq_comm]
  · simp [get?_put_of_ne same, same]

theorem ofPairs_append_singleton (pairs : List (κ × α)) (p : κ × α) :
    ofPairs (pairs ++ [p]) = put p.1 p.2 (ofPairs pairs) := by
  simp only [ofPairs, List.foldl_append, List.foldl_cons, List.foldl_nil]

/-- The keys of a list of pairs are those of the pairs, each where it first came. -/
theorem keys_ofPairs (pairs : List (κ × α)) :
    (ofPairs pairs).map Prod.fst = (pairs.map Prod.fst).eraseDups := by
  induction pairs using List.reverseRecOn with
  | nil => rfl
  | append_singleton pairs p ih =>
    rw [ofPairs_append_singleton, keys_put, ih, List.map_append, List.eraseDups_append]
    by_cases present : p.1 ∈ pairs.map Prod.fst
    · simp [List.removeAll, present]
    · simp [List.removeAll, present, List.eraseDups_cons]

theorem nodup_keys_ofPairs (pairs : List (κ × α)) : ((ofPairs pairs).map Prod.fst).Nodup := by
  induction pairs using List.reverseRecOn with
  | nil => exact List.nodup_nil
  | append_singleton pairs p ih =>
    rw [ofPairs_append_singleton]
    exact nodup_keys_put ih p.1 p.2

theorem mem_of_mem_ofPairs {pairs : List (κ × α)} (member : e ∈ ofPairs pairs) : e ∈ pairs := by
  induction pairs using List.reverseRecOn with
  | nil => exact member
  | append_singleton pairs p ih =>
    rw [ofPairs_append_singleton] at member
    rcases mem_put member with rfl | older
    · exact List.mem_append_right _ List.mem_cons_self
    · exact List.mem_append_left _ (ih older)

/-- Pairs are what is put together from them exactly if no key stands twice. -/
theorem ofPairs_eq_self_iff {pairs : List (κ × α)} :
    ofPairs pairs = pairs ↔ (pairs.map Prod.fst).Nodup := by
  refine ⟨fun same => same ▸ nodup_keys_ofPairs pairs, fun nodup => ?_⟩
  induction pairs using List.reverseRecOn with
  | nil => rfl
  | append_singleton pairs p ih =>
    rw [List.map_append, List.nodup_append] at nodup
    obtain ⟨here, -, apart⟩ := nodup
    rw [ofPairs_append_singleton, ih here]
    exact put_of_notMem (fun member => apart p.1 member p.1 List.mem_cons_self rfl) p.2

/-- Of the values that a key is given the last one counts. -/
theorem get?_ofPairs (key : κ) (pairs : List (κ × α)) :
    get? key (ofPairs pairs) = get? key pairs.reverse := by
  induction pairs using List.reverseRecOn with
  | nil => rfl
  | append_singleton pairs p ih =>
    rw [ofPairs_append_singleton, List.reverse_concat, get?]
    by_cases same : p.1 = key
    · rw [if_pos same, same, get?_put_self]
    · rw [if_neg same, get?_put_of_ne (Ne.symm same), ih]

end ActionBridge.Assoc
