import ActionBridge.Assoc
import ActionBridge.Decimal.Notation

/-!
# JSON values

The values of JSON and their compact text. The members of an object keep their order, and no
key stands twice in an object that is read. Integers of 64 bits are kept apart from other
numbers.
-/
namespace ActionBridge

/-- A JSON value. -/
inductive Json where
  | null
  | boolean (flag : Bool)
  /-- an integer of 64 bits, signed or unsigned -/
  | integer (number : Int)
  /-- any other number -/
  | real (number : Binary64)
  | string (text : String)
  | array (items : List Json)
  | object (members : List (String × Json))
  deriving Repr, Inhabited

namespace Json

/-- The object with the given members, of which the last of each key counts. -/
def ofMembers (members : List (String × Json)) : Json :=
  .object (Assoc.ofPairs members)

/-- The number, or null for one that JSON cannot write. -/
def ofReal (x : Binary64) : Json :=
  if x.isFinite then .real x else .null

/-! ## Strings -/

/-- The hexadecimal digit of a number below 16. -/
def hexDigit (n : Nat) : Char :=
  if n < 10 then Char.ofNat ('0'.toNat + n) else Char.ofNat ('a'.toNat + (n - 10))

/-- How a character stands in a string. -/
def escape (c : Char) : List Char :=
  if c = '"' then ['\\', '"']
  else if c = '\\' then ['\\', '\\']
  else if c = '\x08' then ['\\', 'b']
  else if c = '\x0c' then ['\\', 'f']
  else if c = '\n' then ['\\', 'n']
  else if c = '\r' then ['\\', 'r']
  else if c = '\t' then ['\\', 't']
  else if c.toNat < 0x20 then
    ['\\', 'u', '0', '0', hexDigit (c.toNat / 16), hexDigit (c.toNat % 16)]
  else [c]

/-- A string in quotes. -/
def quote (s : String) : List Char :=
  '"' :: s.toList.flatMap escape ++ ['"']

/-! ## Compact text -/

mutual
/-- The characters of a value, without any space between its parts. -/
def chars : Json → List Char
  | .null => "null".toList
  | .boolean true => "true".toList
  | .boolean false => "false".toList
  | .integer i => (toString i).toList
  | .real x => (Decimal.json.write x).toList
  | .string s => quote s
  | .array items => '[' :: itemChars items ++ [']']
  | .object members => '\x7b' :: memberChars members ++ ['\x7d']

/-- The items of an array, separated by commas. -/
def itemChars : List Json → List Char
  | [] => []
  | [item] => item.chars
  | item :: rest => item.chars ++ ',' :: itemChars rest

/-- The members of an object, separated by commas. -/
def memberChars : List (String × Json) → List Char
  | [] => []
  | [(key, value)] => quote key ++ ':' :: value.chars
  | (key, value) :: rest => quote key ++ ':' :: value.chars ++ ',' :: memberChars rest
end

/-- The compact text of a value. -/
def text (j : Json) : String := String.ofList j.chars

end Json
end ActionBridge
