import ActionBridge.Action.Result
import ActionBridge.Goal.Schema
import ActionBridge.Outcome

/-!
# Action clients

A client takes one goal after the other to an action server: it waits until the server is
up, submits the goal, waits for its end, and fetches the result. A connector makes clients.
Calls act on a client `σ` and on a world `ω`.
-/
namespace ActionBridge

/-- How a call on a client ends, with the client and the world afterwards. -/
structure Called (ω σ α : Type) where
  outcome : Outcome DispatchFault α
  client : σ
  world : ω

/-- How a submission ends. The server may accept the goal and the submission fail. -/
structure Submitted (ω σ : Type) where
  /-- how many times the client tells that the goal is accepted -/
  accepted : Nat
  outcome : Outcome DispatchFault Unit
  client : σ
  world : ω

/-- Makes clients for goals, and the calls on them. -/
structure Connector (ω σ : Type) where
  connect : Goal.Schema → ω → Outcome DispatchFault σ × ω
  awaitServer : σ → ω → Called ω σ Unit
  submit : Goal → σ → ω → Submitted ω σ
  awaitResult : σ → ω → Called ω σ Goal.Status
  fetchResult : σ → ω → Called ω σ Goal.Result

end ActionBridge
