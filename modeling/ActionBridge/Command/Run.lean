import ActionBridge.Action.Gateway
import ActionBridge.Action.Lifecycle
import ActionBridge.Action.Simulation
import ActionBridge.Bridge.Follow
import ActionBridge.Computer
import ActionBridge.Config.Settings
import ActionBridge.Shdr.Adapter

/-!
# Running a configuration

The bridge of a configuration reads the goals from the agent it follows, and runs the actions
on the configured action server, or simulates them.
-/
namespace ActionBridge

/-- Why a command fails. -/
inductive CommandFault where
  | bridge (error : BridgeFault)
  /-- the adapter does not start -/
  | adapterStart (fault : AdapterFault)
  deriving Repr, DecidableEq

def CommandFault.message : CommandFault → String
  | .bridge error => error.message
  | .adapterStart fault => "start SHDR adapter: " ++ (BridgeFault.adapter fault).message

namespace Config

/-- The dispatcher of a configuration. A run that is not simulated needs an action server. -/
def dispatcher (c : Config) (simulate : Bool) : Except BridgeFault (Dispatcher Http.Network) :=
  if simulate then
    .ok (dispatchAction (Simulation.connector c.dispatch.simulatedResult) c.actions
      c.dispatch.announceActive)
  else
    match c.dispatch.server with
    | none => .error (.invalidConfig none .serverRequired)
    | some server =>
      .ok (dispatchAction (Gateway.connector server) c.actions c.dispatch.announceActive)

/-- The source of the goals of a configuration. -/
def goals (c : Config) : Goal.Source Http.Network :=
  .current c.agent.current c.actions c.agent.space

/-- The bridge of a configuration. -/
def bridge (c : Config) (d : Dispatcher Http.Network) : Bridge Http.Network where
  registry := c.actions
  space := c.agent.space
  collaborators := ⟨c.goals, d⟩

end Config

/-- How a run of a configuration ends, with what it told the adapter, and the state
    afterwards. -/
structure Session where
  outcome : Outcome CommandFault Nat
  told : List SinkCall
  lock : Bridge.Lock
  world : Http.Network

/-- A run that ends before the agent is asked for anything. -/
def Session.refused (e : CommandFault) (w : Http.Network) : Session :=
  ⟨.error e, [], {}, w⟩

/-- The outcome of a bridge for its command. -/
def Outcome.ofBridge {α : Type} : Outcome BridgeFault α → Outcome CommandFault α
  | .ok a => .ok a
  | .error e => .error (.bridge e)
  | .crash x => .crash x

/-- Runs a configuration: the data items are announced, and the agent is followed to the end
    of its stream. -/
def Config.run (c : Config) (computer : Computer) (simulate : Bool) (w : Http.Network) : Session :=
  match c.dispatcher simulate with
  | .error e => .refused (.bridge e) w
  | .ok d =>
    match computer.listen c.adapter.listen with
    | .error fault => .refused (.adapterStart fault) w
    | .ok () =>
      let b := c.bridge d
      let r := b.run (c.agent.feed computer.memory) {} w
      ⟨.ofBridge r.outcome, b.readyCalls ++ Handshake.sinkLog r.events, r.lock, r.world⟩

end ActionBridge
