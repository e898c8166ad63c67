import ActionBridge.Decimal.Notation
import ActionBridge.Text.Quoted
import ActionBridge.Toml.Moment
import ActionBridge.Toml.Value

/-!
# Decoding TOML values

Values are decoded by the type that is expected of them. A record is decoded from a table:
its keys are visited in the order of the document, unknown keys and ill-typed values fail
when they are visited, and missing ones after all others. An array in place of a table is
taken as the fields of the record in their order.
-/
namespace ActionBridge.Toml

/-! ## Faults -/

/-- Why a value is not what is expected. -/
inductive DecodeFault where
  /-- a key that the record does not have, and the keys it has -/
  | unknownField (key : String) (fields : List String)
  | missingField (field : String)
  /-- what there is, and what is expected -/
  | invalidType (found expected : String)
  | invalidValue (found expected : String)
  /-- the number of items, and what is expected -/
  | invalidLength (count : Nat) (expected : String)
  /-- a text in the place of a date or time that is none -/
  | invalidMoment
  deriving Repr, DecidableEq

/-- A name between grave accents. -/
def accented (name : String) : String := "\x60" ++ name ++ "\x60"

/-- The names of which one is expected. -/
def oneOf : List String → String
  | [] => "there are no fields"
  | [a] => "expected " ++ accented a
  | [a, b] => "expected " ++ accented a ++ " or " ++ accented b
  | names => "expected one of " ++ ", ".intercalate (names.map accented)

/-- The wording of a fault. -/
def DecodeFault.message : DecodeFault → String
  | .unknownField key fields => "unknown field " ++ accented key ++ ", " ++ oneOf fields
  | .missingField field => "missing field " ++ accented field
  | .invalidType found expected => s!"invalid type: {found}, expected {expected}"
  | .invalidValue found expected => s!"invalid value: {found}, expected {expected}"
  | .invalidLength count expected => s!"invalid length {count}, expected {expected}"
  | .invalidMoment => "failed to parse datetime"

/-- A float in a message: a whole number shows a fraction. -/
def shownFloat (x : Binary64) : String :=
  let s := Decimal.plain.write x
  if x.isFinite && !s.toList.contains '.' then s ++ ".0" else s

/-- A value in a message. -/
def Value.shown : Value → String
  | .string s => "string " ++ Text.quoted s
  | .integer i => "integer " ++ accented (toString i)
  | .float x => "floating point " ++ accented (shownFloat x)
  | .boolean b => "boolean " ++ accented (if b then "true" else "false")
  | .array _ => "sequence"
  | .table _ | .datetime _ => "map"

/-- What decodes a value. -/
abbrev Decoder (α : Type) := Value → Except DecodeFault α

/-! ## Scalars and sequences -/

def decodeString : Decoder String
  | .string s => .ok s
  | v => .error (.invalidType v.shown "a string")

def decodeBool : Decoder Bool
  | .boolean b => .ok b
  | v => .error (.invalidType v.shown "a boolean")

def decodeNat : Decoder Nat
  | .integer i =>
    if 0 ≤ i then .ok i.toNat else .error (.invalidValue (Value.integer i).shown "u64")
  | v => .error (.invalidType v.shown "u64")

def decodeList {α : Type} (item : Decoder α) : Decoder (List α)
  | .array items => items.mapM item
  | v => .error (.invalidType v.shown "a sequence")

/-! ## Free values -/

/-- The key under which the text of a date or time stands in a table of its own. -/
def datetimeKey : String := "$__toml_private_datetime"

/-- The date or time whose text stands in a table of its own. -/
def decodeMoment : Decoder Value
  | .string s =>
    match moment? s with
    | some text => .ok (.datetime text)
    | none => .error .invalidMoment
  | v => .error (.invalidType v.shown "string containing a datetime")

mutual
/-- Any value. A table that begins with the key of dates and times stands for one, and none
    of its other entries counts. -/
def decodeAny : Decoder Value
  | .array items => (decodeItems items).map .array
  | .table ((key, v) :: entries) =>
    if key = datetimeKey then decodeMoment v
    else do
      let first ← decodeAny v
      let others ← decodeEntries entries
      pure (.table ((key, first) :: others))
  | v => .ok v

/-- Any values, in order. -/
def decodeItems : List Value → Except DecodeFault (List Value)
  | [] => .ok []
  | v :: vs => do
    let first ← decodeAny v
    let others ← decodeItems vs
    pure (first :: others)

/-- Any values under their keys, in order. -/
def decodeEntries : List (String × Value) → Except DecodeFault (List (String × Value))
  | [] => .ok []
  | (key, v) :: entries => do
    let first ← decodeAny v
    let others ← decodeEntries entries
    pure ((key, first) :: others)
end

/-! ## Tables -/

/-- A table whose keys are free. -/
def decodeTable {α : Type} (item : Decoder α) : Decoder (List (String × α))
  | .table entries => entries.mapM fun (key, v) => (item v).map ((key, ·))
  | .datetime s => (item (.string s)).map fun a => [(datetimeKey, a)]
  | v => .error (.invalidType v.shown "a map")

/-- A field of a record, and whether it accepts a value. -/
structure RecordField where
  name : String
  accepts : Value → Except DecodeFault Unit

/-- The field `name`, whose values `d` decodes. -/
def RecordField.of {α : Type} (name : String) (d : Decoder α) : RecordField :=
  ⟨name, fun v => (d v).map fun _ => ()⟩

/-- Visits the entries of a table in order. -/
def visit (fields : List RecordField) (entries : List (String × Value)) :
    Except DecodeFault Unit :=
  entries.forM fun (key, v) =>
    match fields.find? (·.name == key) with
    | some field => field.accepts v
    | none => .error (.unknownField key (fields.map (·.name)))

/-- The record as it is named in messages about its length. -/
def lengthName (name : String) (count : Nat) : String :=
  s!"struct {name} with {count} element" ++ (if count = 1 then "" else "s")

/-- The entries of the record `name` with the given fields, all of them acceptable. -/
def recordEntries (name : String) (fields : List RecordField) : Decoder (List (String × Value))
  | .table entries => do
    visit fields entries
    pure entries
  | .array items => do
    let entries := (fields.map (·.name)).zip items
    visit fields entries
    if items.length < fields.length then
      .error (.invalidLength items.length (lengthName name fields.length))
    else pure entries
  | .datetime _ => .error (.unknownField datetimeKey (fields.map (·.name)))
  | v => .error (.invalidType v.shown ("struct " ++ name))

/-- The value of a field that may be missing. -/
def optionalField {α : Type} (name : String) (d : Decoder α) (entries : List (String × Value)) :
    Except DecodeFault (Option α) :=
  match List.lookup name entries with
  | some v => (d v).map some
  | none => .ok none

/-- The value of a field that has to be there. -/
def requiredField {α : Type} (name : String) (d : Decoder α) (entries : List (String × Value)) :
    Except DecodeFault α :=
  match List.lookup name entries with
  | some v => d v
  | none => .error (.missingField name)

end ActionBridge.Toml
