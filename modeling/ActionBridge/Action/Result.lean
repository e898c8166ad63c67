import ActionBridge.Json.Value
import ActionBridge.Text.Blank

/-!
# What an action server reports

The status of a goal, and the result of a finished one as texts under field names in the
order of the server.
-/
namespace ActionBridge

/-! ## Status -/

inductive Goal.Status where
  | pending
  | active
  | succeeded
  | aborted
  | rejected
  | preempted
  deriving Repr, DecidableEq

namespace Goal.Status

def name : Goal.Status → String
  | pending => "pending"
  | active => "active"
  | succeeded => "succeeded"
  | aborted => "aborted"
  | rejected => "rejected"
  | preempted => "preempted"

/-- All statuses. -/
def all : List Goal.Status := [pending, active, succeeded, aborted, rejected, preempted]

/-- The status with the given name, in any letter case and with space around it. -/
def ofName? (s : String) : Option Goal.Status :=
  all.find? fun status => status.name == Text.lower (Text.trim s)

/-- Whether the goal is at its end. -/
def isFinal : Goal.Status → Bool
  | pending | active => false
  | _ => true

end Goal.Status

/-! ## Results -/

/-- The result of a goal. -/
structure Goal.Result where
  fields : List (String × String)
  deriving Repr, DecidableEq

namespace Goal.Result

/-- The result with the given fields, of which the last of each name counts. -/
def ofFields (fields : List (String × String)) : Goal.Result := ⟨Assoc.ofPairs fields⟩

/-- A string as it is, any other value as its compact text. -/
def fieldText : Json → String
  | .string s => s
  | j => j.text

/-- The members of an object, nothing for null, and any other value under the name
    `result`. -/
def ofJson : Json → Goal.Result
  | .object members => ofFields (members.map fun (key, value) => (key, fieldText value))
  | .null => ⟨[]⟩
  | j => ⟨[("result", fieldText j)]⟩

/-- The text of a field. -/
def get? (r : Goal.Result) (field : String) : Option String := Assoc.get? field r.fields

/-- The text of the given field, or of the first one if none is given. -/
def text? (r : Goal.Result) : (field : Option String) → Option String
  | some field => r.get? field
  | none => r.fields.head?.map Prod.snd

end Goal.Result
end ActionBridge
