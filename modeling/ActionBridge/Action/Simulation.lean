import ActionBridge.Action.Client

/-!
# Simulation actions

A connector whose actions succeed at once with one and the same text.
-/
namespace ActionBridge.Simulation

/-- A client of a simulated action server. -/
structure Client where
  action : String
  resultField : Option String
  submitted : Bool
  deriving Repr, DecidableEq

/-- The result: the text under the field that is reported. -/
def Client.result (c : Client) (text : String) : Goal.Result :=
  ⟨[(c.resultField.getD "result", text)]⟩

/-- The connector that answers every goal with `text`. -/
def connector {ω : Type} (text : String) : Connector ω Client where
  connect s w := (.ok ⟨s.action, s.resultField, false⟩, w)
  awaitServer c w := ⟨.ok (), c, w⟩
  submit _ c w := ⟨1, .ok (), { c with submitted := true }, w⟩
  awaitResult c w :=
    if c.submitted then ⟨.ok .succeeded, c, w⟩ else ⟨.error (.remote c.action .noGoal), c, w⟩
  fetchResult c w := ⟨.ok (c.result text), c, w⟩

end ActionBridge.Simulation
