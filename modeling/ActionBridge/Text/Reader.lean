/-!
# Readers

A reader takes characters from the front of a text and gives a value with the characters
that are left, or nothing. Readers are put together by `do` notation, and of two readers
joined by `<|>` the second reads what the first refused.
-/
namespace ActionBridge

/-- Reads a value from the front of a text. -/
abbrev Reader (α : Type) := StateT (List Char) Option α

namespace Reader

variable {α β : Type}

/-- Refuses every text. -/
def fail : Reader α := fun _ => none

/-- The next character, which is left in place. -/
def peek : Reader (Option Char) := fun cs => some (cs.head?, cs)

/-- Whether the text begins with `word`, which is left in place. -/
def sees (word : String) : Reader Bool := fun cs => some (word.toList.isPrefixOf cs, cs)

/-- Whether nothing is left. -/
def atEnd : Reader Bool := fun cs => some (cs.isEmpty, cs)

/-- The next character, if it satisfies `p`. -/
def one (p : Char → Bool) : Reader Char
  | c :: rest => if p c then some (c, rest) else none
  | [] => none

/-- The character `c`. -/
def char (c : Char) : Reader Unit := do
  let _ ← one (· == c)

/-- The characters of `word`. -/
def word (word : String) : Reader Unit := fun cs =>
  if word.toList.isPrefixOf cs then some ((), cs.drop word.length) else none

/-- The longest stretch of characters that satisfy `p`, possibly empty. -/
def stretch (p : Char → Bool) : Reader (List Char) := fun cs =>
  some (cs.takeWhile p, cs.dropWhile p)

/-- The longest stretch of characters that satisfy `p`, of which there is at least one. -/
def stretch1 (p : Char → Bool) : Reader (List Char) := do
  let cs ← stretch p
  if cs.isEmpty then fail else pure cs

/-- What `r` reads, over and over until it refuses, at most `limit` times. -/
def manyUpTo (r : Reader α) : (limit : Nat) → Reader (List α)
  | 0 => pure []
  | limit + 1 => fun cs =>
    match r cs with
    | none => some ([], cs)
    | some (a, rest) => (manyUpTo r limit rest).map fun (as, rest) => (a :: as, rest)

/-- What `r` reads, over and over until it refuses. A reader that takes a character each time
    refuses before the limit is reached. -/
def many (r : Reader α) : Reader (List α) := fun cs => manyUpTo r cs.length cs

/-- What `r` reads, with `separator` read in between; a separator that no item follows is
    left in place. There is at least one item. -/
def separated (r : Reader α) (separator : Reader Unit) : Reader (List α) := do
  let first ← r
  let others ← many (do separator; r)
  pure (first :: others)

/-- The value of a reader that takes the whole text. -/
def whole? (r : Reader α) (cs : List Char) : Option α :=
  match r cs with
  | some (a, []) => some a
  | _ => none

end Reader
end ActionBridge
