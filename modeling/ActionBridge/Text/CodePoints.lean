/-!
# Code points

Characters are numbered by code points, of which some stand for no character. A set of
characters is written as a list of ranges of code points, each by its first and its last one.
-/
namespace ActionBridge.Text

/-- The character with the given code point, if there is one. -/
def character? (code : Nat) : Option Char :=
  if code < 0xD800 ∨ (0xDFFF < code ∧ code < 0x110000) then some (Char.ofNat code) else none

/-- Ranges of code points, both ends of each included. -/
abbrev Ranges := List (Nat × Nat)

/-- Whether one of the ranges holds a character. -/
def Ranges.has (ranges : Ranges) (c : Char) : Bool :=
  ranges.any fun (first, last) => first ≤ c.toNat && c.toNat ≤ last

end ActionBridge.Text
