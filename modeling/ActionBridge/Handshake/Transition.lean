import ActionBridge.Goal.Source
import ActionBridge.Sink

/-!
# Transitions of the handshake

What the handshake needs to run an action, what it does about an element, and the calls that
it makes on the way.
-/
namespace ActionBridge

/-! ## Collaborators -/

/-- How a dispatch ends, what it told the sink, and the world afterwards. -/
structure Dispatched (ω : Type) where
  outcome : Outcome DispatchFault String
  calls : List SinkCall
  world : ω

/-- Runs a goal to its end and gives the text of its result. -/
abbrev Dispatcher (ω : Type) := Goal → ω → Dispatched ω

/-- What the machine needs to run an action. -/
structure Collaborators (ω : Type) where
  goals : Goal.Source ω
  dispatcher : Dispatcher ω

namespace Handshake

/-! ## Transitions and events -/

/-- What the machine does about one element. -/
inductive Transition where
  /-- the action ran, and the handshake is in flight in place of `superseded` -/
  | dispatched (action handshake result : String) (superseded : Option String)
  /-- the handshake in flight is over -/
  | completed (action handshake : String)
  /-- the request is dropped -/
  | dispatchFailed (action handshake : String) (error : DispatchFault)
  | ignored (action handshake state : String)
  deriving Repr, DecidableEq

/-- A call that the machine makes. -/
inductive Event where
  /-- on the goal source, with its answer -/
  | asked (action : String) (answer : Outcome DispatchFault Goal)
  /-- on the dispatcher, with its answer and what it told the sink -/
  | ran (goal : Goal) (answer : Outcome DispatchFault String) (calls : List SinkCall)
  /-- on the sink -/
  | told (call : SinkCall)
  deriving Repr, DecidableEq

/-- What an event told the sink. -/
def Event.calls : Event → List SinkCall
  | .asked .. => []
  | .ran _ _ calls => calls
  | .told call => [call]

/-- What events told the sink, in order. -/
def sinkLog (events : List Event) : List SinkCall := events.flatMap Event.calls

end Handshake
end ActionBridge
