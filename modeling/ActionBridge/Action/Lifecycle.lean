import ActionBridge.Action.Client
import ActionBridge.Handshake.Transition

/-!
# Dispatching actions

One goal from its submission to the text of its result. Each acceptance may be announced on
the data item of the action. Any stage that fails ends the dispatch with its error.
-/
namespace ActionBridge

/-- What one acceptance or more of a goal tells the sink. -/
def acceptances (announceActive : Bool) (item : String) (accepted : Nat) : List SinkCall :=
  if announceActive then (List.replicate accepted (transaction item "ACTIVE")).flatten else []

/-- The text that is reported for a result. -/
def Goal.Schema.report (s : Goal.Schema) (r : Goal.Result) : Except DispatchFault String :=
  match r.text? s.resultField with
  | some text => .ok text
  | none => .error (.remote s.action .noValue)

/-- The stages behind the submission, which tell the sink nothing. -/
def collect {ω σ : Type} (c : Connector ω σ) (s : Goal.Schema) (client : σ) (w : ω) :
    Outcome DispatchFault String × ω :=
  let ended := c.awaitResult client w
  match ended.outcome with
  | .crash x => (.crash x, ended.world)
  | .error e => (.error e, ended.world)
  | .ok status =>
    if status ≠ .succeeded then (.error (.rejected s.action status.name), ended.world)
    else
      let fetched := c.fetchResult ended.client ended.world
      match fetched.outcome with
      | .crash x => (.crash x, fetched.world)
      | .error e => (.error e, fetched.world)
      | .ok result => (.ofExcept (s.report result), fetched.world)

/-- Takes a goal of the size of its schema through all stages. -/
def runGoal {ω σ : Type} (c : Connector ω σ) (s : Goal.Schema) (announceActive : Bool)
    (goal : Goal) (w : ω) : Dispatched ω :=
  match c.connect s w with
  | (.crash x, w) => ⟨.crash x, [], w⟩
  | (.error e, w) => ⟨.error e, [], w⟩
  | (.ok client, w) =>
    let up := c.awaitServer client w
    match up.outcome with
    | .crash x => ⟨.crash x, [], up.world⟩
    | .error e => ⟨.error e, [], up.world⟩
    | .ok () =>
      let sent := c.submit goal up.client up.world
      let calls := acceptances announceActive s.dataItem sent.accepted
      match sent.outcome with
      | .crash x => ⟨.crash x, calls, sent.world⟩
      | .error e => ⟨.error e, calls, sent.world⟩
      | .ok () =>
        let (outcome, w) := collect c s sent.client sent.world
        ⟨outcome, calls, w⟩

/-- The dispatcher of the registered actions: goals of unknown actions, and of another size
    than their schema, are not even connected for. -/
def dispatchAction {ω σ : Type} (c : Connector ω σ) (r : Registry)
    (announceActive : Bool) : Dispatcher ω := fun goal w =>
  match r.get? goal.action with
  | none => ⟨.error (.unknownAction goal.action), [], w⟩
  | some s =>
    if goal.fields.length ≠ s.fields.length then
      ⟨.error (.schemaMismatch s.action s.fields.length goal.fields.length), [], w⟩
    else runGoal c s announceActive goal w

end ActionBridge
