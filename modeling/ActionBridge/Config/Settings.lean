import ActionBridge.Agent
import ActionBridge.Config.Actions
import ActionBridge.Document.Excerpt
import ActionBridge.Toml.Document

/-!
# Configurations

A configuration is a TOML document with sections for the agent, the adapter, the log, the
dispatch and the actions. What it leaves out takes a default.
-/
namespace ActionBridge

/-! ## Settings -/

/-- Where the adapter listens. -/
structure AdapterSettings where
  listen : String
  /-- the interval of heartbeats in milliseconds -/
  heartbeat : Nat
  deriving Repr, DecidableEq

/-- How actions are dispatched. -/
structure DispatchSettings where
  /-- whether the acceptance of a goal is announced -/
  announceActive : Bool
  /-- the action server -/
  server : Option String
  /-- milliseconds between requests while waiting -/
  poll : Nat
  /-- the result of all actions when they are simulated -/
  simulatedResult : String
  deriving Repr, DecidableEq

/-- A configuration. -/
structure Config where
  agent : Agent
  adapter : AdapterSettings
  logLevel : String
  dispatch : DispatchSettings
  actions : Registry

namespace Config

/-! ## Checks -/

/-- An `http` or `https` URL with something behind its slashes. -/
def isWebUrl (url : String) : Bool :=
  ["http://", "https://"].any fun scheme =>
    scheme.toList.isPrefixOf url.toList && scheme.length < url.toList.length

/-- A URL as it is kept: without space around it and slashes at its end. -/
def tidyUrl (url : String) : String := Text.trimEnd '/' (Text.trim url)

/-- A number of at least one, or `fallback` if there is none. -/
def positive (fault : ConfigFault) (fallback : Nat) (n : Option Nat) : Except ConfigFault Nat :=
  let n := n.getD fallback
  if n = 0 then .error fault else .ok n

/-- A text that is not blank, or `fallback` if there is none. -/
def notBlank (fault : ConfigFault) (fallback : String) (s : Option String) :
    Except ConfigFault String :=
  let s := s.getD fallback
  if Text.isAllBlank s then .error fault else .ok s

/-- The agent of a section. -/
def agentOf (s : Section.Agent) : Except ConfigFault Agent := do
  let url := tidyUrl s.url
  require (isWebUrl url) (.agentUrl s.url)
  let interval ← positive .agentInterval 1000 s.interval
  let count ← positive .agentCount 1000 s.count
  let space ← notBlank .agentNamespace defaultNamespace s.space
  let device := s.device.bind fun d => Text.nonEmpty? (Text.trimBoth '/' (Text.trim d))
  pure ⟨url, device, Text.trim space, interval, count⟩

/-- The settings of the adapter. -/
def adapterOf (s : Option Section.Adapter) : Except ConfigFault AdapterSettings := do
  let listen ← notBlank .adapterListen "0.0.0.0:7878" (s.bind (·.listen))
  let heartbeat ← positive .adapterHeartbeat 10000 (s.bind (·.heartbeat))
  pure ⟨listen, heartbeat⟩

/-- The action server: a URL unless nothing is left of it. -/
def serverOf (server : Option String) : Except ConfigFault (Option String) :=
  match server.bind fun s => Text.nonEmpty? (tidyUrl s) with
  | none => .ok none
  | some url => if isWebUrl url then .ok (some url) else .error .dispatchServer

/-- The settings of the dispatch. -/
def dispatchOf (s : Option Section.Dispatch) : Except ConfigFault DispatchSettings := do
  let poll ← positive .dispatchPoll 100 (s.bind (·.poll))
  let server ← serverOf (s.bind (·.server))
  pure
    { announceActive := (s.bind (·.announceActive)).getD false
      server := server
      poll := poll
      simulatedResult := (s.bind (·.simulatedResult)).getD "COMPLETE" }

/-- The configuration of sections that are acceptable. -/
def ofSections (s : Sections) : Except ConfigFault Config := do
  let agent ← agentOf s.agent
  let adapter ← adapterOf s.adapter
  let logLevel ← notBlank .logLevel "info" (s.log.map (·.level))
  let dispatch ← dispatchOf s.dispatch
  let actions ← registryOf s.actions
  pure ⟨agent, adapter, logLevel, dispatch, actions⟩

/-! ## Texts and files -/

/-- The sections of a text. -/
def sections (text : String) : Except ConfigFault Sections :=
  match Toml.read? text with
  | none => .error .syntaxError
  | some entries => (decodeSections (.table entries)).mapError .form

/-- The configuration of the text of a file named `file`. -/
def parse (file text : String) : Except BridgeFault Config :=
  ((sections text).bind ofSections).mapError (.invalidConfig (some file))

/-- The name of a file without the directories in front of it. -/
def fileName (path : String) : String :=
  String.ofList (path.toList.reverse.takeWhile (· != '/')).reverse

/-- The configuration of the file at `path`, as it was read. -/
def load (path : String) (content : Except ReadFault (List UInt8)) : Except BridgeFault Config :=
  match content with
  | .error fault => .error (.invalidConfig none (.unreadable path fault))
  | .ok bytes =>
    match Utf8.decode bytes with
    | .error _ => .error (.invalidConfig none (.unreadable path .notText))
    | .ok text => parse (fileName path) text

end Config
end ActionBridge
