/-!
# Blank space and letter case

Blank characters are those with the Unicode property White_Space. Trimming removes
them at both ends of a text. Letter case is folded for the letters A to Z alone.
-/
namespace ActionBridge.Text

/-! ## Blank characters -/

/-- The code points of the property White_Space. -/
def isBlank (c : Char) : Bool :=
  let n := c.toNat
  (9 ≤ n && n ≤ 13) || n == 0x20 || n == 0x85 || n == 0xA0 || n == 0x1680
    || (0x2000 ≤ n && n ≤ 0x200A) || n == 0x2028 || n == 0x2029 || n == 0x202F
    || n == 0x205F || n == 0x3000

/-! ## Trimming -/

variable {α : Type}

/-- The list without the longest final stretch that satisfies `p`. -/
def dropEndWhile (p : α → Bool) (xs : List α) : List α :=
  (xs.reverse.dropWhile p).reverse

/-- The list without the longest stretches that satisfy `p` at either end. -/
def stripWhile (p : α → Bool) (xs : List α) : List α :=
  dropEndWhile p (xs.dropWhile p)

/-- The text without blank characters at either end. -/
def trim (s : String) : String :=
  String.ofList (stripWhile isBlank s.toList)

/-- The text without final occurrences of `c`. -/
def trimEnd (c : Char) (s : String) : String :=
  String.ofList (dropEndWhile (· == c) s.toList)

/-- The text without occurrences of `c` at either end. -/
def trimBoth (c : Char) (s : String) : String :=
  String.ofList (stripWhile (· == c) s.toList)

/-- A text of blank characters only, the empty one included. -/
def isAllBlank (s : String) : Bool :=
  trim s == ""

/-- `none` for the empty text. -/
def nonEmpty? (s : String) : Option String :=
  if s == "" then none else some s

/-! ## Letter case -/

/-- The text with A to Z in lower case and all else unchanged. -/
def lower (s : String) : String :=
  String.ofList (s.toList.map Char.toLower)

/-- Equality up to the case of A to Z. -/
def sameLetters (s t : String) : Bool :=
  lower s == lower t

/-! ## Splitting -/

/-- The stretches between occurrences of `sep`, of which there is always one. -/
def splitAll [BEq α] (sep : α) : List α → List (List α)
  | [] => [[]]
  | x :: xs =>
    if x == sep then [] :: splitAll sep xs
    else match splitAll sep xs with
      | [] => [[x]]
      | piece :: pieces => (x :: piece) :: pieces

/-- What stands before and after the first `sep`, if there is one. -/
def splitFirst [BEq α] (sep : α) : List α → Option (List α × List α)
  | [] => none
  | x :: xs =>
    if x == sep then some ([], xs)
    else (splitFirst sep xs).map fun (before, after) => (x :: before, after)

/-- What stands before and after the last `sep`, if there is one. -/
def splitLast [BEq α] (sep : α) (xs : List α) : Option (List α × List α) :=
  (splitFirst sep xs.reverse).map fun (after, before) => (before.reverse, after.reverse)

/-! ## Small facts -/

@[simp] theorem toList_trim (s : String) : (trim s).toList = stripWhile isBlank s.toList := by
  simp [trim]

@[simp] theorem toList_lower (s : String) : (lower s).toList = s.toList.map Char.toLower := by
  simp [lower]

/-- A list splits into the part that is kept and a final stretch that satisfies `p`. -/
theorem dropEndWhile_append (p : α → Bool) (xs : List α) :
    dropEndWhile p xs ++ (xs.reverse.takeWhile p).reverse = xs := by
  rw [dropEndWhile, ← List.reverse_append, List.takeWhile_append_dropWhile, List.reverse_reverse]

end ActionBridge.Text
