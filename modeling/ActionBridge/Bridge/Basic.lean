import ActionBridge.Document.Excerpt
import ActionBridge.Handshake.Machine

/-!
# The bridge

The bridge stands between an agent and the actions of a registry. It takes chunks, which are
documents of the agent. A chunk that is no such document is dropped; the elements of any
other go through the handshake. The machine of the handshake stands under a lock, which a chunk
holds from its beginning to its end. The world `ω` is what the calls of the bridge act on.
-/
namespace ActionBridge

/-- A bridge between an agent and the actions of a registry. -/
structure Bridge (ω : Type) where
  registry : Registry
  /-- the namespace of the agent's documents -/
  space : String
  collaborators : Collaborators ω

namespace Bridge
open Handshake

variable {ω : Type}

/-- The names of the elements that the bridge looks for. -/
def watched (b : Bridge ω) : List String := b.registry.actions

/-- Sets all data items to `READY` in one transaction. -/
def readyCalls (b : Bridge ω) : List SinkCall :=
  .begin :: b.registry.dataItems.map (.set · "READY") ++ [.complete]

/-! ## Chunks -/

/-- What became of a chunk. -/
inductive Reception where
  | processed (transitions : List Transition)
  | dropped (fault : ParseFault)
  | crashed (crash : Crash)
  deriving Repr, DecidableEq

/-- The outcome of a chunk, with what was called, and the state afterwards. -/
structure Handled (ω : Type) where
  outcome : Reception
  machine : Machine
  events : List Event
  world : ω

/-- The outcome of a chunk whose elements were processed. -/
def Reception.ofResult : Except Crash (List Transition) → Reception
  | .ok transitions => .processed transitions
  | .error crash => .crashed crash

/-- Takes one chunk at the machine. -/
def receive (b : Bridge ω) (m : Machine) (chunk : List UInt8) (w : ω) : Handled ω :=
  match Excerpt.parseBytes b.space b.watched chunk with
  | .error fault => ⟨.dropped fault, m, [], w⟩
  | .ok excerpt =>
    let s := step b.collaborators m excerpt.elements w
    ⟨.ofResult s.result, s.machine, s.events, s.world⟩

/-! ## The lock -/

/-- The lock around the machine. A call that panics while it holds the lock leaves it poisoned, and it
    stays so. -/
structure Lock where
  machine : Machine := {}
  poisoned : Bool := false
  deriving Repr, DecidableEq

/-- Asks for the lock. A poisoned one hands the machine out inside of an error. -/
def Lock.acquire (l : Lock) : Except Machine Machine :=
  if l.poisoned then .error l.machine else .ok l.machine

/-- The machine, also out of the error of a poisoned lock. -/
def recovered : Except Machine Machine → Machine
  | .ok m => m
  | .error m => m

/-- The handshake in flight, as anybody may ask for it. -/
def Lock.inFlight (l : Lock) : Option String := (recovered l.acquire).inFlight

/-- Whether the call on a chunk panicked. -/
def Reception.isPanic : Reception → Bool
  | .crashed x => x.isPanic
  | .processed _ | .dropped _ => false

/-- Gives the lock back behind a chunk. -/
def Lock.release (l : Lock) (h : Handled ω) : Lock := ⟨h.machine, l.poisoned || h.outcome.isPanic⟩

/-- The outcome of a chunk, with what was called, and the lock and the world afterwards. -/
structure Locked (ω : Type) where
  outcome : Reception
  lock : Lock
  events : List Event
  world : ω

/-- Takes one chunk, with the lock held meanwhile. -/
def onChunk (b : Bridge ω) (l : Lock) (chunk : List UInt8) (w : ω) : Locked ω :=
  let h := b.receive (recovered l.acquire) chunk w
  ⟨h.outcome, l.release h, h.events, h.world⟩

end Bridge
end ActionBridge
