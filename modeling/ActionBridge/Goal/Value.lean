import ActionBridge.Decimal.Notation
import ActionBridge.Json.Value
import ActionBridge.Text.Blank

/-!
# Goal values

A goal carries typed values. The kind of a field says which texts it accepts and what they
mean; space around a text never counts.
-/
namespace ActionBridge

/-! ## Kinds -/

/-- The kind of a goal field. -/
inductive Goal.Kind where
  | text
  | float
  | integer
  | bool
  deriving Repr, DecidableEq, Inhabited

/-- The name of a kind. -/
def Goal.Kind.name : Goal.Kind → String
  | .text => "text"
  | .float => "float"
  | .integer => "integer"
  | .bool => "bool"

/-- The kind with the given name, in any letter case. Each kind has a second name. -/
def Goal.Kind.ofName? (s : String) : Option Goal.Kind :=
  let word := Text.lower (Text.trim s)
  if word = "text" ∨ word = "string" then some .text
  else if word = "float" ∨ word = "double" then some .float
  else if word = "integer" ∨ word = "int" then some .integer
  else if word = "bool" ∨ word = "boolean" then some .bool
  else none

/-! ## Values -/

/-- The value of a goal field. -/
inductive Goal.Value where
  | text (s : String)
  | float (x : Binary64)
  /-- an integer of 64 bits -/
  | integer (i : Int)
  | bool (flag : Bool)
  deriving Repr, DecidableEq, Inhabited

namespace Goal.Value

def kind : Goal.Value → Goal.Kind
  | .text _ => .text
  | .float _ => .float
  | .integer _ => .integer
  | .bool _ => .bool

/-- The value for a reader of messages. -/
def display : Goal.Value → String
  | .text s => s
  | .float x => Decimal.plain.write x
  | .integer i => toString i
  | .bool flag => if flag then "true" else "false"

/-- The value on the wire. -/
def toJson : Goal.Value → Json
  | .text s => .string s
  | .float x => .ofReal x
  | .integer i => .integer i
  | .bool flag => .boolean flag

end Goal.Value

/-- The truth value that a word or digit names, in any letter case. -/
def truthOfName? (s : String) : Option Bool :=
  let word := Text.lower s
  if word = "true" ∨ word = "1" then some true
  else if word = "false" ∨ word = "0" then some false
  else none

/-- The value of kind `k` that a text stands for. -/
def Goal.Kind.read? (k : Goal.Kind) (s : String) : Option Goal.Value :=
  let t := Text.trim s
  match k with
  | .text => some (.text t)
  | .float => (Decimal.real? t).map .float
  | .integer => (Decimal.int64? t).map .integer
  | .bool => (truthOfName? t).map .bool

end ActionBridge
