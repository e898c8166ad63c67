import ActionBridge.Decimal.Binary64

/-!
# TOML values

A TOML document is a table; its keys keep the order in which the document brings them.
-/
namespace ActionBridge.Toml

/-- A value of a TOML document. -/
inductive Value where
  | string (text : String)
  | integer (number : Int)
  | float (number : Binary64)
  | boolean (flag : Bool)
  /-- a date, a time, or both, by its text in normal form -/
  | datetime (text : String)
  | array (items : List Value)
  | table (entries : List (String × Value))
  deriving Repr, Inhabited

/-- The deepest nesting of arrays and inline tables, and the longest dotted key, stay below
    this number. -/
def nestingLimit : Nat := 80

end ActionBridge.Toml
