import ActionBridge.Text.Extending
import ActionBridge.Text.Hex
import ActionBridge.Text.Unprintable

/-!
# Quoted text in messages

Messages show a text in double quotes on one line. Characters that have no visible form of
their own are written by name or by number.
-/
namespace ActionBridge.Text

/-- Whether a character is written by its number: it has no visible form, or none apart from
    the character before it. -/
def isHidden (c : Char) : Bool := isUnprintable c || isExtending c

/-- How a character stands between quotes. -/
def escapeShown (c : Char) : String :=
  if c = '\x00' then "\\0"
  else if c = '\t' then "\\t"
  else if c = '\n' then "\\n"
  else if c = '\r' then "\\r"
  else if c = '"' then "\\\""
  else if c = '\\' then "\\\\"
  else if isHidden c then "\\u\x7b" ++ hex c.toNat ++ "\x7d"
  else String.ofList [c]

/-- The text in quotes. -/
def quoted (s : String) : String :=
  "\"" ++ String.join (s.toList.map escapeShown) ++ "\""

end ActionBridge.Text
