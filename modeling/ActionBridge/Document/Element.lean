import ActionBridge.Text.Blank

/-!
# Watched elements

An element of the agent's documents that is named like an action: the machine tool raises and
lowers its state, and its name tells one request from the next.
-/
namespace ActionBridge

/-- The state of a watched element. -/
inductive Element.State where
  | active
  | ready
  /-- any other text -/
  | other (text : String)
  deriving Repr, DecidableEq

/-- The state that a text stands for; space around it does not count. -/
def Element.State.ofText (s : String) : Element.State :=
  let t := Text.trim s
  if t = "ACTIVE" then .active else if t = "READY" then .ready else .other t

/-- The text of a state. -/
def Element.State.text : Element.State → String
  | .active => "ACTIVE"
  | .ready => "READY"
  | .other t => t

/-- An element of a watched action. -/
structure Element where
  action : String
  state : Element.State
  /-- the name of the element, which tells one request from the next -/
  handshake : String
  deriving Repr, DecidableEq

/-- The element of an action by its texts. -/
def Element.ofTexts (action state handshake : String) : Element :=
  ⟨action, .ofText state, handshake⟩

end ActionBridge
