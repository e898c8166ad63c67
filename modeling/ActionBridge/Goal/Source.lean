import ActionBridge.Document.Excerpt
import ActionBridge.Goal.Schema
import ActionBridge.Outcome

/-!
# Goal sources

A goal source makes the goal of an action at the time of the request. The bridge reads the
value of the first field from the agent's current document. A source acts on a world `ω`,
which is whatever its calls change.
-/
namespace ActionBridge

/-- Makes the goal of an action. -/
abbrev Goal.Source (ω : Type) := String → ω → Outcome DispatchFault Goal × ω

/-- Hands out the agent's current document. -/
abbrev DocumentSource (ω : Type) := ω → Except BridgeFault String × ω

/-- The goal of a schema with its first field read from a document. -/
def Goal.Schema.fromDocument (s : Goal.Schema) (space document : String) :
    Except DispatchFault Goal :=
  match Excerpt.textOf space s.goalElement document with
  | .error fault => .error (.unavailable (.parse fault))
  | .ok none => .error (.goalElementMissing s.action s.goalElement)
  | .ok (some seed) => s.build seed

/-- The source that reads the agent's current document for each goal. -/
def Goal.Source.current {ω : Type} (documents : DocumentSource ω) (r : Registry)
    (space : String) : Goal.Source ω := fun action w =>
  match r.get? action with
  | none => (.error (.unknownAction action), w)
  | some s =>
    match documents w with
    | (.error cause, w) => (.error (.unavailable cause), w)
    | (.ok document, w) => (.ofExcept (s.fromDocument space document), w)

end ActionBridge
