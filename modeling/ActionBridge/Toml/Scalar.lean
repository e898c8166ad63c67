import ActionBridge.Decimal.Notation
import ActionBridge.Text.CodePoints
import ActionBridge.Text.Hex
import ActionBridge.Text.Reader
import ActionBridge.Toml.Moment
import ActionBridge.Toml.Value

/-!
# TOML keys and scalars

The lexical grammar of TOML: blank space, comments, keys, strings and numbers.
-/
namespace ActionBridge.Toml
open Reader Decimal Text

/-! ## Blank space and comments -/

def isSpace (c : Char) : Bool := c == ' ' || c == '\t'

/-- Characters outside ASCII, which strings and comments hold as they are. -/
def isBeyondAscii (c : Char) : Bool := 0x80 ≤ c.toNat

/-- Characters of a comment. -/
def isCommentChar (c : Char) : Bool :=
  c == '\t' || (0x20 ≤ c.toNat && c.toNat ≤ 0x7E) || isBeyondAscii c

def spaces : Reader Unit := do
  let _ ← stretch isSpace

/-- A line break: a line feed that a carriage return may precede. -/
def newline : Reader Unit := word "\n" <|> word "\r\n"

def comment : Reader Unit := do
  char '#'
  let _ ← stretch isCommentChar

/-- What may stand between a value and the end of its line. -/
def lineEnd : Reader Unit := do
  spaces
  let _ ← optional comment
  if ← atEnd then pure () else newline

/-- Space, line breaks and comments, as they may stand between the items of an array. -/
def gap : Reader Unit := do
  let _ ← many ((do let _ ← stretch1 isSpace) <|> newline <|> comment)

/-! ## Strings -/

/-- A number of exactly `count` hexadecimal digits. -/
def hexDigits : (count : Nat) → (value : Nat) → Reader Nat
  | 0, value => pure value
  | count + 1, value => do
    let c ← one fun c => (hexDigit? c).isSome
    hexDigits count (value * 16 + (hexDigit? c).getD 0)

/-- The character with the number that `count` hexadecimal digits write. -/
def codePoint (count : Nat) : Reader Char := do
  let n ← hexDigits count 0
  match character? n with
  | some c => pure c
  | none => fail

/-- A backslash and the characters that say which character is meant. -/
def escaped : Reader Char := do
  char '\\'
  let c ← one fun _ => true
  match c with
  | 'b' => pure '\x08'
  | 't' => pure '\t'
  | 'n' => pure '\n'
  | 'f' => pure '\x0c'
  | 'r' => pure '\r'
  | '"' => pure '"'
  | '\\' => pure '\\'
  | 'u' => codePoint 4
  | 'U' => codePoint 8
  | _ => fail

/-- Characters that a quoted string holds as they are. -/
def isBasicChar (c : Char) : Bool :=
  isCommentChar c && c != '"' && c != '\\'

/-- Characters that a literal string holds. -/
def isLiteralChar (c : Char) : Bool :=
  isCommentChar c && c != '\''

/-- A string in quotes, on one line, with escapes. -/
def basicString : Reader String := do
  char '"'
  let pieces ← many (stretch1 isBasicChar <|> (do pure [← escaped]))
  char '"'
  pure (String.ofList pieces.flatten)

/-- A string in apostrophes, on one line, without escapes. -/
def literalString : Reader String := do
  char '\''
  let cs ← stretch isLiteralChar
  char '\''
  pure (String.ofList cs)

/-- A backslash at the end of a line, which swallows all space up to the next character. -/
def continuedLine : Reader Unit := do
  char '\\'
  spaces
  newline
  let _ ← many ((do let _ ← stretch1 isSpace) <|> newline)

/-- One or two delimiters that stand as characters: no third one follows. -/
def looseDelimiters (d : Char) : Reader (List Char) := do
  let ds ← stretch1 (· == d)
  if ds.length < 3 then pure ds else fail

/-- The closing three delimiters, with up to two more before them that belong to the text. -/
def closing (d : Char) : Reader (List Char) := do
  let ds ← stretch1 (· == d)
  if 3 ≤ ds.length ∧ ds.length ≤ 5 then pure (ds.drop 3) else fail

/-- A string in triple quotes, over several lines, with escapes. -/
def multilineBasicString : Reader String := do
  word "\"\"\""
  let _ ← optional newline
  let pieces ← many
    (stretch1 isBasicChar
      <|> (do continuedLine; pure [])
      <|> (do pure [← escaped])
      <|> (do newline; pure ['\n'])
      <|> looseDelimiters '"')
  let final ← closing '"'
  pure (String.ofList (pieces.flatten ++ final))

/-- A string in triple apostrophes, over several lines, without escapes. -/
def multilineLiteralString : Reader String := do
  word "'''"
  let _ ← optional newline
  let pieces ← many
    (stretch1 isLiteralChar <|> (do newline; pure ['\n']) <|> looseDelimiters '\'')
  let final ← closing '\''
  pure (String.ofList (pieces.flatten ++ final))

def anyString : Reader String := do
  if ← sees "\"\"\"" then multilineBasicString
  else if ← sees "'''" then multilineLiteralString
  else basicString <|> literalString

/-! ## Keys -/

/-- Characters of a key without quotes. -/
def isBareKeyChar (c : Char) : Bool :=
  c.isAlphanum || c == '-' || c == '_'

def simpleKey : Reader String :=
  basicString <|> literalString <|> (do pure (String.ofList (← stretch1 isBareKeyChar)))

/-- Keys joined by points, with space around each. -/
def dottedKey : Reader (List String) := do
  let keys ← separated (do spaces; let k ← simpleKey; spaces; pure k) (char '.')
  if keys.length < nestingLimit then pure keys else fail

/-! ## Numbers -/

/-- A digit, and further digits that single underscores may separate. -/
def grouped (p : Char → Bool) : Reader (List Char) := do
  let first ← one p
  let others ← many (one p <|> (do char '_'; one p))
  pure (first :: others)

/-- An optional sign, as it is written. -/
def sign : Reader (List Char) := do
  match ← optional (one fun c => c == '+' || c == '-') with
  | some c => pure [c]
  | none => pure []

/-- A decimal integer without needless zeros. -/
def decimalDigits : Reader (List Char) := do
  let s ← sign
  if (← peek) == some '0' then
    let c ← one isDigit
    pure (s ++ [c])
  else pure (s ++ (← grouped isDigit))

/-- An integer in base 16, 8 or 2 after its mark. -/
def markedInteger (mark : String) (base : Nat) : Reader Value := do
  word mark
  let ds ← grouped fun c => (hexDigit? c).any (· < base)
  let n := ofBase base ds
  if n < Nat.pow 2 63 then pure (.integer n) else fail

def integer : Reader Value := do
  if ← sees "0x" then markedInteger "0x" 16
  else if ← sees "0o" then markedInteger "0o" 8
  else if ← sees "0b" then markedInteger "0b" 2
  else
    let ds ← decimalDigits
    match int64? (String.ofList ds) with
    | some i => pure (.integer i)
    | none => fail

/-- The exponent of a number. -/
def exponentPart : Reader (List Char) := do
  let _ ← one fun c => c == 'e' || c == 'E'
  let s ← sign
  let ds ← grouped isDigit
  pure ('e' :: s ++ ds)

/-- The fraction of a number. -/
def fractionPart : Reader (List Char) := do
  char '.'
  let ds ← grouped isDigit
  pure ('.' :: ds)

/-- A number with a fraction, an exponent or both; it may not exceed the greatest float. -/
def plainFloat : Reader Value := do
  let whole ← decimalDigits
  let rest ← exponentPart <|> (do
    let f ← fractionPart
    match ← optional exponentPart with
    | some e => pure (f ++ e)
    | none => pure f)
  match real? (String.ofList (whole ++ rest)) with
  | some (.infinite false) => fail
  | some x => pure (.float x)
  | none => fail

/-- Infinity, or the value that is no number. -/
def specialFloat : Reader Value := do
  let s ← sign
  (do word "inf"; pure (.float (.infinite (s == ['-']))))
    <|> (do word "nan"; pure (.float .nan))

def boolean : Reader Value :=
  (do word "true"; pure (.boolean true)) <|> (do word "false"; pure (.boolean false))

/-- A date, a time or both. -/
def datetime : Reader Value := do pure (.datetime (← moment))

/-- Any value but arrays and inline tables. -/
def scalar : Reader Value := do
  match ← peek with
  | some '"' => pure (.string (← anyString))
  | some '\'' => pure (.string (← anyString))
  | _ => datetime <|> plainFloat <|> specialFloat <|> integer <|> boolean

end ActionBridge.Toml
