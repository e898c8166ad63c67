import ActionBridge.Text.Utf8
import Mathlib.Data.List.Basic

/-!
# ASCII in UTF-8

The bytes below 0x80 of a text are its ASCII characters.
-/
namespace ActionBridge.Utf8

/-- The encoding of a character: its code point as a byte, or no byte of ASCII. -/
theorem utf8EncodeChar_cases (c : Char) :
    (c.toNat < 0x80 ∧ String.utf8EncodeChar c = [UInt8.ofNat c.toNat]) ∨
      ∀ b ∈ String.utf8EncodeChar c, 0x80 ≤ b.toNat := by
  by_cases ascii : c.toNat < 0x80
  · refine .inl ⟨ascii, ?_⟩
    have small : c.val.toNat ≤ 0x7f := Nat.le_of_lt_succ ascii
    simp only [String.utf8EncodeChar, small, if_true]
    rfl
  · refine .inr fun b member => ?_
    have large : ¬ c.val.toNat ≤ 0x7f := fun small => ascii (Nat.lt_succ_of_le small)
    simp only [String.utf8EncodeChar, large, if_false] at member
    split at member
    · simp only [List.mem_cons, List.not_mem_nil, or_false] at member
      rcases member with rfl | rfl <;> simp only [UInt8.toNat_ofNat'] <;> omega
    · split at member
      · simp only [List.mem_cons, List.not_mem_nil, or_false] at member
        rcases member with rfl | rfl | rfl <;> simp only [UInt8.toNat_ofNat'] <;> omega
      · simp only [List.mem_cons, List.not_mem_nil, or_false] at member
        rcases member with rfl | rfl | rfl | rfl <;> simp only [UInt8.toNat_ofNat'] <;> omega

/-- A byte of ASCII in the encoding of a character is that character. -/
theorem eq_of_mem_utf8EncodeChar {c : Char} {b : UInt8} (ascii : b.toNat < 0x80)
    (member : b ∈ String.utf8EncodeChar c) : c = Char.ofNat b.toNat := by
  rcases utf8EncodeChar_cases c with ⟨small, encoded⟩ | high
  · rw [encoded, List.mem_singleton] at member
    have code : b.toNat = c.toNat := by
      rw [member, UInt8.toNat_ofNat']
      omega
    rw [code, Char.ofNat_toNat]
  · exact absurd (high b member) (by omega)

theorem mem_of_mem_bytesOf {s : String} {b : UInt8} (ascii : b.toNat < 0x80) (member : b ∈ bytesOf s) :
    Char.ofNat b.toNat ∈ s.toList := by
  obtain ⟨c, inside, among⟩ := List.mem_flatMap.mp member
  exact eq_of_mem_utf8EncodeChar ascii among ▸ inside

/-- The encoding of a character has a byte of ASCII once if it is that character, and else not. -/
theorem count_utf8EncodeChar {b : UInt8} (ascii : b.toNat < 0x80) (c : Char) :
    (String.utf8EncodeChar c).count b = if c = Char.ofNat b.toNat then 1 else 0 := by
  by_cases same : c = Char.ofNat b.toNat
  · have valid : b.toNat.isValidChar := .inl (by omega)
    have code : c.toNat = b.toNat := by
      rw [same, Char.ofNat, dif_pos valid]
      rfl
    have encoded : String.utf8EncodeChar c = [b] := by
      have small : c.val.toNat ≤ 0x7f := by
        have : c.val.toNat = b.toNat := code
        omega
      have byte : UInt8.ofNat c.val.toNat = b := by
        rw [show c.val.toNat = b.toNat from code, UInt8.ofNat_toNat]
      simp only [String.utf8EncodeChar, small, if_true]
      exact congrArg (fun x => [x]) byte
    rw [encoded, if_pos same, List.count_singleton_self]
  · have absent : b ∉ String.utf8EncodeChar c := fun member => same (eq_of_mem_utf8EncodeChar ascii member)
    rw [List.count_eq_zero_of_not_mem absent, if_neg same]

/-- A byte of ASCII stands in the encoding of a text as often as its character in the text. -/
theorem count_bytesOf {b : UInt8} (ascii : b.toNat < 0x80) (s : String) :
    (bytesOf s).count b = s.toList.count (Char.ofNat b.toNat) := by
  rw [bytesOf, encode]
  induction s.toList with
  | nil => rfl
  | cons c cs ih =>
    rw [List.flatMap_cons, List.count_append, ih, count_utf8EncodeChar ascii, List.count_cons]
    by_cases same : c = Char.ofNat b.toNat
    · simp [same, Nat.add_comm]
    · simp [same]

theorem bytesOf_append (s t : String) : bytesOf (s ++ t) = bytesOf s ++ bytesOf t := by
  rw [bytesOf, String.toList_append, encode, List.flatMap_append]
  rfl

/-- A text whose bytes end in one of ASCII ends in that character. -/
theorem getLast?_of_bytesOf {s : String} {b : UInt8} (ascii : b.toNat < 0x80)
    (last : (bytesOf s).getLast? = some b) : s.toList.getLast? = some (Char.ofNat b.toNat) := by
  rw [bytesOf, encode] at last
  rcases List.eq_nil_or_concat s.toList with none | ⟨cs, c, split⟩
  · rw [none] at last
    exact nomatch last
  · rw [split, List.concat_eq_append] at last ⊢
    rw [List.flatMap_append, List.flatMap_singleton,
      List.getLast?_append_of_ne_nil _ String.utf8EncodeChar_ne_nil] at last
    rw [List.getLast?_concat, eq_of_mem_utf8EncodeChar ascii (List.mem_of_getLast? last)]

end ActionBridge.Utf8
