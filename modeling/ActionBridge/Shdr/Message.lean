/-!
# SHDR messages

What the adapter sends to its clients: records of data items with their values, each on a
line behind a timestamp, and answers to pings. The parts of a record are separated by
vertical bars, so a bar in a value is written as a slash.
-/
namespace ActionBridge.Shdr

/-- Data items with their values. -/
abbrev Record := List (String × String)

/-- What the adapter sends. -/
inductive Message where
  | record (r : Record)
  /-- the answer to a ping: the interval of heartbeats in milliseconds -/
  | pong (heartbeat : Nat)
  deriving Repr, DecidableEq

/-- A value as it is written. -/
def writtenValue (value : String) : String :=
  String.ofList (value.toList.map fun c => if c = '|' then '/' else c)

/-- A data item and its value as they are written. -/
def writtenField (field : String × String) : String :=
  "|" ++ field.1 ++ "|" ++ writtenValue field.2

/-- The text of a message; a record bears the timestamp `stamp`. -/
def Message.text (stamp : String) : Message → String
  | .record r => stamp ++ String.join (r.map writtenField) ++ "\n"
  | .pong heartbeat => s!"* PONG {heartbeat}\n"

end ActionBridge.Shdr
