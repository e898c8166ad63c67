import ActionBridge.Json.Syntax
import Mathlib.Tactic.SplitIfs

/-!
# JSON strings

A string in quotes is read back as the text that it was written for. Most characters stand for
themselves, some are escaped by a letter, and the other control characters by their number.
-/
namespace ActionBridge.Json

/-- Characters of a document that are all well-formed. -/
def symbolsOf (cs : List Char) : List Symbol := cs.map some

theorem symbolsOf_cons (c : Char) (cs : List Char) : symbolsOf (c :: cs) = some c :: symbolsOf cs := rfl

theorem symbolsOf_append (cs ds : List Char) : symbolsOf (cs ++ ds) = symbolsOf cs ++ symbolsOf ds :=
  List.map_append

/-- How a character of a string is read. -/
def glyphOf (c : Char) : Glyph :=
  if c.toNat < 0x20 ∧ c ≠ '\x08' ∧ c ≠ '\x0c' ∧ c ≠ '\n' ∧ c ≠ '\r' ∧ c ≠ '\t' then .unit c.toNat
  else .char c

theorem hexValue?_hexDigit : ∀ n < 16, hexValue? (some (hexDigit n)) = some n := by decide

theorem readGlyphs_escape (c : Char) (rest : List Symbol) :
    readGlyphs (symbolsOf (escape c) ++ rest)
      = (readGlyphs rest).map fun (gs, r) => (glyphOf c :: gs, r) := by
  unfold escape
  split_ifs with quote backslash backspace formFeed lineFeed return' tab control
  · subst c; rfl
  · subst c; rfl
  · subst c; rfl
  · subst c; rfl
  · subst c; rfl
  · subst c; rfl
  · subst c; rfl
  · -- A control character without a letter of its own.
    have high := hexValue?_hexDigit (c.toNat / 16) (by omega)
    have low := hexValue?_hexDigit (c.toNat % 16) (by omega)
    have zero : hexValue? (some '0') = some 0 := by decide
    have number : ((0 * 16 + 0) * 16 + c.toNat / 16) * 16 + c.toNat % 16 = c.toNat := by omega
    have glyph : glyphOf c = .unit c.toNat :=
      if_pos ⟨control, backspace, formFeed, lineFeed, return', tab⟩
    simp only [symbolsOf, List.map_cons, List.map_nil, List.cons_append, List.nil_append, readGlyphs,
      zero, high, low, number, glyph]
  · have glyph : glyphOf c = .char c := if_neg fun h => control h.1
    simp only [symbolsOf, List.map_cons, List.map_nil, List.cons_append, List.nil_append]
    -- No other way to read it applies, as it is neither a quote nor a backslash.
    rw [readGlyphs, if_neg control, glyph] <;> intros <;> simp_all

theorem readGlyphs_flatMap (cs : List Char) (rest : List Symbol) :
    readGlyphs (symbolsOf (cs.flatMap escape) ++ some '"' :: rest) = some (cs.map glyphOf, rest) := by
  induction cs with
  | nil => rfl
  | cons c cs ih =>
    rw [List.flatMap_cons, symbolsOf_append, List.append_assoc, readGlyphs_escape, ih]
    rfl

theorem glyphChars_glyphOf (c : Char) (glyphs : List Glyph) :
    glyphChars (glyphOf c :: glyphs) = (glyphChars glyphs).map (c :: ·) := by
  unfold glyphOf
  split
  · rename_i control
    have leading : isLeading c.toNat = false := by
      simp only [isLeading, Bool.and_eq_false_iff, decide_eq_false_iff_not]
      omega
    have trailing : isTrailing c.toNat = false := by
      simp only [isTrailing, Bool.and_eq_false_iff, decide_eq_false_iff_not]
      omega
    rw [glyphChars.eq_def]
    simp only [leading, trailing, Bool.false_eq_true, if_false, Char.ofNat_toNat]
  · rw [glyphChars]

theorem glyphText?_glyphOf (s : String) : glyphText? (s.toList.map glyphOf) = some s := by
  have chars (cs : List Char) : glyphChars (cs.map glyphOf) = some cs := by
    induction cs with
    | nil => rfl
    | cons c cs ih => rw [List.map_cons, glyphChars_glyphOf, ih, Option.map_some]
  rw [glyphText?, chars, Option.map_some, String.ofList_toList]

end ActionBridge.Json
