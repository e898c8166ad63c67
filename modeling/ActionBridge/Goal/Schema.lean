import ActionBridge.DataItem
import ActionBridge.Fault
import ActionBridge.Goal.Value

/-!
# Goal schemas

A schema says which fields the goal of an action has. The first field takes its value from
the agent's document, every later one from its default. The registry holds one schema for
each action, in the order of configuration.
-/
namespace ActionBridge

/-! ## Schemas -/

/-- A field of a goal. -/
structure Goal.Field where
  key : String
  kind : Goal.Kind
  /-- the text of every field but the first -/
  default : Option String
  deriving Repr, DecidableEq

/-- The goal of one action. -/
structure Goal.Schema where
  space : String
  action : String
  /-- the element of the agent's document that the first field is taken from -/
  goalElement : String
  fields : List Goal.Field
  /-- the field of the result that is reported; the first one if there is none -/
  resultField : Option String
  deriving Repr, DecidableEq

/-- The data item on which the action is reported. -/
def Goal.Schema.dataItem (s : Goal.Schema) : String := DataItem.name s.action

/-! ## Payloads -/

/-- A goal: the values of its fields under their keys. -/
structure Goal where
  action : String
  fields : List (String × Goal.Value)
  deriving Repr, DecidableEq

/-- The goal on the wire. -/
def Goal.toJson (p : Goal) : Json :=
  .ofMembers (p.fields.map fun (key, value) => (key, value.toJson))

/-- The texts for the fields of a schema, as far as there are any. -/
def Goal.Schema.texts (s : Goal.Schema) (seed : String) : List String :=
  seed :: (s.fields.drop 1).filterMap (·.default)

/-- The value of a field. -/
def Goal.Schema.bind (s : Goal.Schema) (field : Goal.Field) (text : String) :
    Except DispatchFault (String × Goal.Value) :=
  match field.kind.read? text with
  | some value => .ok (field.key, value)
  | none => .error (.invalidField s.action field.key text)

/-- The goal of a schema for the given text of its first field. -/
def Goal.Schema.build (s : Goal.Schema) (seed : String) : Except DispatchFault Goal :=
  let texts := s.texts seed
  if texts.length ≠ s.fields.length then
    .error (.schemaMismatch s.action s.fields.length texts.length)
  else do
    let fields ← (s.fields.zip texts).mapM fun (field, text) => s.bind field text
    pure ⟨s.action, fields⟩

/-! ## Registries -/

/-- The schemas of all actions, one for each. -/
structure Registry where
  entries : List (String × Goal.Schema)
  nodup : (entries.map Prod.fst).Nodup
  keyed : ∀ e ∈ entries, e.2.action = e.1

namespace Registry

/-- Registers one more schema; it takes the place of an earlier one of the same action. -/
def add (r : Registry) (s : Goal.Schema) : Registry where
  entries := Assoc.put s.action s r.entries
  nodup := Assoc.nodup_keys_put r.nodup _ _
  keyed e he := by
    rcases Assoc.mem_put he with rfl | h
    · rfl
    · exact r.keyed e h

/-- The registry without actions. -/
def empty : Registry := ⟨[], by simp, by simp⟩

/-- The registry of the given schemas. -/
def ofSchemas (schemas : List Goal.Schema) : Registry := schemas.foldl add empty

/-- The schema of an action. -/
def get? (r : Registry) (action : String) : Option Goal.Schema := Assoc.get? action r.entries

/-- The actions, in order. -/
def actions (r : Registry) : List String := r.entries.map Prod.fst

/-- The schemas, in order. -/
def schemas (r : Registry) : List Goal.Schema := r.entries.map Prod.snd

/-- The data items on which the actions are reported, in order. -/
def dataItems (r : Registry) : List String := r.schemas.map (·.dataItem)

def size (r : Registry) : Nat := r.entries.length

/-- The goal of an action for the given text of its first field. -/
def build (r : Registry) (action seed : String) : Except DispatchFault Goal :=
  match r.get? action with
  | none => .error (.unknownAction action)
  | some s => s.build seed

end Registry
end ActionBridge
