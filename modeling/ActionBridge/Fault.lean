import ActionBridge.Config.Fault
import ActionBridge.Http.Network

/-!
# Errors

The errors of the bridge by their causes, with their wordings. A dispatch error drops one
request and changes nothing else; a bridge error ends what was going on.
-/
namespace ActionBridge

/-! ## Errors of the bridge -/

/-- What goes wrong between the bridge and the agent. -/
inductive TransportFault where
  /-- a request for `url` has no response of status 200 -/
  | fetch (url : String) (fault : Http.CallFault)
  /-- the current document breaks off, or is too long -/
  | document (reason : String)
  /-- the stream breaks off between its parts, or outside of parts with a length -/
  | read (reason : String)
  /-- the stream ends inside a part that announced its length -/
  | truncated (length : Nat) (reason : String)
  /-- a fault that a source of documents reports in its own words -/
  | reported (message : String)
  deriving Repr, DecidableEq

def TransportFault.message : TransportFault → String
  | .fetch url (.status _ code reason) => s!"GET {url} failed: {code} {reason}"
  | .fetch url fault => s!"GET {url} failed: {fault.message}"
  | .document reason => s!"read current: {reason}"
  | .read reason => s!"read stream: {reason}"
  | .truncated length reason => s!"truncated part ({length} bytes): {reason}"
  | .reported message => message

/-- Why a document of the agent cannot be used. -/
inductive ParseFault where
  | notUtf8 (fault : Utf8.Fault)
  | malformed
  | headerMissing
  | sequenceMissing
  /-- the element of an action has no name -/
  | nameMissing (action : String)
  deriving Repr, DecidableEq

def ParseFault.message : ParseFault → String
  | .notUtf8 fault => s!"chunk is not UTF-8: {fault.message}"
  | .malformed => "malformed XML"
  | .headerMissing => "missing <Header> element"
  | .sequenceMissing => "<Header> without nextSequence"
  | .nameMissing action => s!"<{action}> without name attribute"

/-- Why the adapter cannot listen. -/
inductive AdapterFault where
  | address (listen : String)
  | port (listen : String)
  /-- the system refuses -/
  | refused (listen reason : String)
  deriving Repr, DecidableEq

def AdapterFault.message : AdapterFault → String
  | .address listen => s!"bind {listen}: invalid socket address"
  | .port listen => s!"bind {listen}: invalid port value"
  | .refused listen reason => s!"bind {listen}: {reason}"

/-- An error of the bridge. -/
inductive BridgeFault where
  /-- the file is named where the fault is in its content -/
  | invalidConfig (file : Option String) (fault : ConfigFault)
  | transport (fault : TransportFault)
  | parse (fault : ParseFault)
  | adapter (fault : AdapterFault)
  deriving Repr, DecidableEq

def BridgeFault.message : BridgeFault → String
  | .invalidConfig none fault => s!"invalid config: {fault.message}"
  | .invalidConfig (some file) fault => s!"invalid config: {file}: {fault.message}"
  | .transport fault => s!"transport error: {fault.message}"
  | .parse fault => s!"parse error: {fault.message}"
  | .adapter fault => s!"adapter error: {fault.message}"

/-! ## Errors of a dispatch -/

/-- What goes wrong between the bridge and an action server. -/
inductive RemoteFault where
  | submit (fault : Http.CallFault)
  | invalidSubmit
  | poll (fault : Http.CallFault)
  | invalidDocument
  | unknownStatus (status : String)
  | noGoal
  | notFinished
  | noValue
  /-- a fault that a client reports in its own words -/
  | reported (message : String)
  deriving Repr, DecidableEq

def RemoteFault.message : RemoteFault → String
  | .submit fault => s!"submit goal: {fault.message}"
  | .invalidSubmit => "invalid submit response"
  | .poll fault => s!"poll goal: {fault.message}"
  | .invalidDocument => "invalid goal document"
  | .unknownStatus status => s!"unknown goal status '{status}'"
  | .noGoal => "no goal submitted"
  | .notFinished => "result requested before goal finished"
  | .noValue => "result carries no value"
  | .reported message => message

/-- Why a request for an action is dropped. -/
inductive DispatchFault where
  | unknownAction (action : String)
  | schemaMismatch (action : String) (expected found : Nat)
  | goalElementMissing (action element : String)
  | invalidField (action field value : String)
  /-- the agent's current document is not to be had -/
  | unavailable (cause : BridgeFault)
  | remote (action : String) (fault : RemoteFault)
  | rejected (action status : String)
  deriving Repr, DecidableEq

def DispatchFault.message : DispatchFault → String
  | .unknownAction action => s!"no goal schema registered for action '{action}'"
  | .schemaMismatch action expected found =>
    s!"goal for '{action}' has {found} value(s), schema expects {expected}"
  | .goalElementMissing action element =>
    s!"goal element <{element}> for '{action}' not present in current snapshot"
  | .invalidField action field value => s!"field '{field}' of '{action}' cannot hold '{value}'"
  | .unavailable cause => s!"current snapshot unavailable: {cause.message}"
  | .remote action fault => s!"remote action '{action}' failed: {fault.message}"
  | .rejected action status => s!"remote action '{action}' finished with status {status}"

end ActionBridge
