import ActionBridge.Files
import ActionBridge.Goal.Value
import ActionBridge.Toml.Decoding

/-!
# Faults of a configuration

Each fault names one cause for which a configuration is refused.
-/
namespace ActionBridge

/-! ## Actions -/

/-- What is wrong with the section of an action. -/
inductive ActionFault where
  | goalElementBlank
  | noFields
  | keyBlank
  | keyRepeated (key : String)
  | kindUnknown (key kind : String)
  /-- the first field takes its value from the goal element -/
  | defaultOnFirst (key : String)
  /-- a field after the first has nothing but its default -/
  | defaultMissing (key : String)
  | defaultNotScalar (key : String)
  | defaultInvalid (key text : String) (kind : Goal.Kind)
  deriving Repr, DecidableEq

/-- The wording of a fault; `place` names the action. -/
def ActionFault.message (place : String) : ActionFault → String
  | .goalElementBlank => s!"{place}.goal_element must not be empty"
  | .noFields => s!"{place}.fields must not be empty"
  | .keyBlank => s!"{place}.fields[].key must not be empty"
  | .keyRepeated key => s!"{place}: duplicate field '{key}'"
  | .kindUnknown key kind => s!"{place}.{key}: invalid kind '{kind}'"
  | .defaultOnFirst key => s!"{place}.{key}: seeded from goal_element, takes no default"
  | .defaultMissing key => s!"{place}.{key}: default is required after the first field"
  | .defaultNotScalar key => s!"{place}.{key}: default must be a scalar"
  | .defaultInvalid key text kind =>
    s!"{place}.{key}: default '{text}' is not a valid {kind.name}"

/-! ## Configurations -/

/-- Why a configuration is refused. -/
inductive ConfigFault where
  /-- the file cannot be read -/
  | unreadable (path : String) (fault : ReadFault)
  /-- the text is no TOML document -/
  | syntaxError
  /-- the document does not have the form of a configuration -/
  | form (fault : Toml.DecodeFault)
  | agentUrl (url : String)
  | agentInterval
  | agentCount
  | agentNamespace
  | adapterListen
  | adapterHeartbeat
  | logLevel
  | dispatchPoll
  | dispatchServer
  | namespaceBlank
  | actionBlank (space : String)
  | actionRepeated (action : String)
  | inAction (space action : String) (fault : ActionFault)
  | noActions
  /-- a run without simulation has no action server -/
  | serverRequired
  deriving Repr, DecidableEq

/-- How the lines begin that say what is wrong with the form of a document. -/
def detailMarks : List String :=
  ["unknown field ", "missing field ", "invalid type: ", "invalid value: ", "invalid length "]

/-- What a message says of the form of a document: the last line of the fault, if it begins
    as such a line does. Only the keys of the document break lines. -/
def formDetail (fault : Toml.DecodeFault) : String :=
  let last := ((Text.splitAll '\n' fault.message.toList).getLast?).getD []
  if detailMarks.any fun mark => mark.toList.isPrefixOf last then ": " ++ String.ofList last
  else ""

/-- The wording of a fault. -/
def ConfigFault.message : ConfigFault → String
  | .unreadable path fault => s!"{path}: {fault.message}"
  | .syntaxError => "TOML parse error"
  | .form fault => "TOML parse error" ++ formDetail fault
  | .agentUrl url => s!"agent.url must be an http(s) URL, got '{url}'"
  | .agentInterval => "agent.interval_ms must be >= 1"
  | .agentCount => "agent.count must be >= 1"
  | .agentNamespace => "agent.namespace must not be empty"
  | .adapterListen => "adapter.listen must not be empty"
  | .adapterHeartbeat => "adapter.heartbeat_ms must be >= 1"
  | .logLevel => "log.level must not be empty"
  | .dispatchPoll => "dispatch.poll_ms must be >= 1"
  | .dispatchServer => "dispatch.server must be an http(s) URL"
  | .namespaceBlank => "actions namespace must not be empty"
  | .actionBlank space => s!"actions.{space}: action name must not be empty"
  | .actionRepeated action => s!"action '{action}' is configured more than once"
  | .inAction space action fault => fault.message s!"actions.{space}.{action}"
  | .noActions => "at least one action must be configured"
  | .serverRequired => "dispatch.server is required unless --simulate"

end ActionBridge
