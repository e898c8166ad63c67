import ActionBridge.Toml.Decoding

/-!
# Sections of a configuration

A configuration as it is written: every section with its entries, before anything is checked
but their types.
-/
namespace ActionBridge.Config
open Toml

/-! ## Records -/

/-- Where the agent is. -/
structure Section.Agent where
  url : String
  device : Option String
  space : Option String
  interval : Option Nat
  count : Option Nat
  deriving Repr, Inhabited

/-- Where the adapter listens. -/
structure Section.Adapter where
  listen : Option String
  heartbeat : Option Nat
  deriving Repr

structure Section.Log where
  level : String
  deriving Repr

/-- How actions are dispatched. -/
structure Section.Dispatch where
  announceActive : Option Bool
  server : Option String
  poll : Option Nat
  simulatedResult : Option String
  deriving Repr

/-- A field of the goal of an action. -/
structure Section.Field where
  key : String
  kind : String
  default : Option Value
  deriving Repr

/-- An action. -/
structure Section.Action where
  goalElement : String
  fields : List Section.Field
  resultField : Option String
  deriving Repr

/-- A whole configuration. The actions stand under their names, and these under the names of
    their groups. -/
structure Sections where
  agent : Section.Agent
  adapter : Option Section.Adapter
  log : Option Section.Log
  dispatch : Option Section.Dispatch
  actions : List (String × List (String × Section.Action))
  deriving Repr

/-! ## Decoding -/

def decodeAgent : Decoder Section.Agent := fun v => do
  let entries ← recordEntries "AgentSection"
    [.of "url" decodeString, .of "device" decodeString, .of "namespace" decodeString,
     .of "interval_ms" decodeNat, .of "count" decodeNat] v
  let url ← requiredField "url" decodeString entries
  let device ← optionalField "device" decodeString entries
  let space ← optionalField "namespace" decodeString entries
  let interval ← optionalField "interval_ms" decodeNat entries
  let count ← optionalField "count" decodeNat entries
  pure ⟨url, device, space, interval, count⟩

def decodeAdapter : Decoder Section.Adapter := fun v => do
  let entries ← recordEntries "AdapterSection"
    [.of "listen" decodeString, .of "heartbeat_ms" decodeNat] v
  let listen ← optionalField "listen" decodeString entries
  let heartbeat ← optionalField "heartbeat_ms" decodeNat entries
  pure ⟨listen, heartbeat⟩

def decodeLog : Decoder Section.Log := fun v => do
  let entries ← recordEntries "LogSection" [.of "level" decodeString] v
  let level ← requiredField "level" decodeString entries
  pure ⟨level⟩

def decodeDispatch : Decoder Section.Dispatch := fun v => do
  let entries ← recordEntries "DispatchSection"
    [.of "announce_active" decodeBool, .of "server" decodeString, .of "poll_ms" decodeNat,
     .of "simulated_result" decodeString] v
  let announceActive ← optionalField "announce_active" decodeBool entries
  let server ← optionalField "server" decodeString entries
  let poll ← optionalField "poll_ms" decodeNat entries
  let simulatedResult ← optionalField "simulated_result" decodeString entries
  pure ⟨announceActive, server, poll, simulatedResult⟩

def decodeField : Decoder Section.Field := fun v => do
  let entries ← recordEntries "FieldSection"
    [.of "key" decodeString, .of "kind" decodeString, .of "default" decodeAny] v
  let key ← requiredField "key" decodeString entries
  let kind ← requiredField "kind" decodeString entries
  let default ← optionalField "default" decodeAny entries
  pure ⟨key, kind, default⟩

def decodeAction : Decoder Section.Action := fun v => do
  let entries ← recordEntries "ActionSection"
    [.of "goal_element" decodeString, .of "fields" (decodeList decodeField),
     .of "result_field" decodeString] v
  let goalElement ← requiredField "goal_element" decodeString entries
  let fields ← requiredField "fields" (decodeList decodeField) entries
  let resultField ← optionalField "result_field" decodeString entries
  pure ⟨goalElement, fields, resultField⟩

/-- The actions under the names of their groups. -/
def decodeActions : Decoder (List (String × List (String × Section.Action))) :=
  decodeTable (decodeTable decodeAction)

def decodeSections : Decoder Sections := fun v => do
  let entries ← recordEntries "BridgeToml"
    [.of "agent" decodeAgent, .of "adapter" decodeAdapter, .of "log" decodeLog,
     .of "dispatch" decodeDispatch, .of "actions" decodeActions] v
  let agent ← requiredField "agent" decodeAgent entries
  let adapter ← optionalField "adapter" decodeAdapter entries
  let log ← optionalField "log" decodeLog entries
  let dispatch ← optionalField "dispatch" decodeDispatch entries
  let actions ← requiredField "actions" decodeActions entries
  pure ⟨agent, adapter, log, dispatch, actions⟩

end ActionBridge.Config
