import ActionBridge.Agent
import ActionBridge.Bridge.Basic

/-!
# Following the agent

The bridge starts at the agent's current document, and takes the chunks of the stream from
there on one by one, up to the end of the stream.
-/
namespace ActionBridge

/-- What the bridge reads from the agent. -/
structure Feed (ω : Type) where
  current : DocumentSource ω
  /-- the stream from a sequence number on -/
  stream : (sequence : String) → ω → Except BridgeFault Multipart.Split × ω

/-- The feed of an agent in the network, with the given memory for chunks. -/
def Agent.feed (a : Agent) (memory : Nat) : Feed Http.Network := ⟨a.current, a.stream memory⟩

namespace Bridge
open Handshake

variable {ω : Type}

/-- How a run or a stretch of it ends, with what was called, and the state afterwards. -/
structure Ran (ω α : Type) where
  outcome : Outcome BridgeFault α
  lock : Lock
  events : List Event
  world : ω

/-- Takes chunks in order, up to the first at which a call crashes, and counts them. -/
def receiveAll (b : Bridge ω) (l : Lock) : List (List UInt8) → ω → Ran ω Nat
  | [], w => ⟨.ok 0, l, [], w⟩
  | chunk :: chunks, w =>
    let h := b.onChunk l chunk w
    match h.outcome with
    | .crashed x => ⟨.crash x, h.lock, h.events, h.world⟩
    | _ =>
      let later := b.receiveAll h.lock chunks h.world
      ⟨later.outcome.map (· + 1), later.lock, h.events ++ later.events, later.world⟩

/-- Takes the chunks of a stream, and ends as the stream does. -/
def follow (b : Bridge ω) (l : Lock) (stream : Multipart.Split) (w : ω) : Ran ω Nat :=
  let taken := b.receiveAll l stream.chunks w
  match taken.outcome, stream.ending with
  | .ok _, .error fault => { taken with outcome := .error (.transport fault) }
  | .ok _, .crash x => { taken with outcome := .crash x }
  | _, _ => taken

/-- Follows the agent to the end of its stream, and counts the chunks. -/
def run (b : Bridge ω) (feed : Feed ω) (l : Lock) (w : ω) : Ran ω Nat :=
  match feed.current w with
  | (.error e, w) => ⟨.error e, l, [], w⟩
  | (.ok document, w) =>
    match Excerpt.parse b.space b.watched document with
    | .error fault => ⟨.error (.parse fault), l, [], w⟩
    | .ok excerpt =>
      match feed.stream excerpt.nextSequence w with
      | (.error e, w) => ⟨.error e, l, [], w⟩
      | (.ok stream, w) => b.follow l stream w

end Bridge
end ActionBridge
