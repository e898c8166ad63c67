import ActionBridge.Handshake.Transition

/-!
# The handshake

The machine tool raises a watched element to `ACTIVE` to request an action. The bridge runs
the action, reports its result on the data item of the action, and keeps the name of the
element as the handshake in flight. When the element falls back to `READY` under that name,
the bridge reports `READY` and the handshake is over. One handshake at most is in flight.
-/
namespace ActionBridge.Handshake

/-! ## One element -/

/-- The handshake in flight, if there is one. -/
structure Machine where
  inFlight : Option String := none
  deriving Repr, DecidableEq

/-- What became of one element. -/
structure Applied (ω : Type) where
  result : Except Crash Transition
  machine : Machine
  events : List Event
  world : ω

/-- Sets the data item of an action in a transaction. -/
def announce (action value : String) : List Event :=
  (transaction (DataItem.name action) value).map .told

/-- Runs the action of an element. -/
def request {ω : Type} (c : Collaborators ω) (m : Machine) (e : Element) (w : ω) :
    Applied ω :=
  match c.goals e.action w with
  | (.crash x, w) => ⟨.error x, m, [.asked e.action (.crash x)], w⟩
  | (.error err, w) =>
    ⟨.ok (.dispatchFailed e.action e.handshake err), m, [.asked e.action (.error err)], w⟩
  | (.ok goal, w) =>
    let d := c.dispatcher goal w
    let events := [.asked e.action (.ok goal), .ran goal d.outcome d.calls]
    match d.outcome with
    | .crash x => ⟨.error x, m, events, d.world⟩
    | .error err => ⟨.ok (.dispatchFailed e.action e.handshake err), m, events, d.world⟩
    | .ok result =>
      ⟨.ok (.dispatched e.action e.handshake result m.inFlight), ⟨some e.handshake⟩,
        events ++ announce e.action result, d.world⟩

/-- Does what an element asks for. -/
def apply {ω : Type} (c : Collaborators ω) (m : Machine) (e : Element) (w : ω) :
    Applied ω :=
  if e.state = .active ∧ m.inFlight ≠ some e.handshake then request c m e w
  else if e.state = .ready ∧ m.inFlight = some e.handshake then
    ⟨.ok (.completed e.action e.handshake), ⟨none⟩, announce e.action "READY", w⟩
  else ⟨.ok (.ignored e.action e.handshake e.state.text), m, [], w⟩

/-! ## Chunks of elements -/

/-- The elements of a chunk in the order in which they are processed. The end of the handshake
    in flight and a new request may come in one chunk; when the first element is not the one
    in flight the order is reversed, so that the end is seen first. -/
def Machine.arrange (m : Machine) (es : List Element) : List Element :=
  match es with
  | first :: _ :: _ => if m.inFlight = some first.handshake then es else es.reverse
  | _ => es

/-- What became of a chunk. -/
structure Stepped (ω : Type) where
  result : Except Crash (List Transition)
  machine : Machine
  events : List Event
  world : ω

/-- Processes elements one by one, up to the first at which a call crashes. -/
def applyAll {ω : Type} (c : Collaborators ω) (m : Machine) : List Element → ω → Stepped ω
  | [], w => ⟨.ok [], m, [], w⟩
  | e :: es, w =>
    let a := apply c m e w
    match a.result with
    | .error x => ⟨.error x, a.machine, a.events, a.world⟩
    | .ok t =>
      let s := applyAll c a.machine es a.world
      ⟨s.result.map (t :: ·), s.machine, a.events ++ s.events, s.world⟩

/-- Processes a chunk. -/
def step {ω : Type} (c : Collaborators ω) (m : Machine) (es : List Element) (w : ω) :
    Stepped ω :=
  applyAll c m (m.arrange es) w

end ActionBridge.Handshake
