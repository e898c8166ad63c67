import ActionBridge.Action.Client
import ActionBridge.Json.Syntax

/-!
# Action servers over HTTP

The client of an action server that speaks JSON. It asks for the action until the server
answers that it is up, posts the goal, and asks for the goal until its status is terminal.
-/
namespace ActionBridge.Gateway
open Http Json

/-! ## Documents of the server -/

/-- The answer to a submission. -/
structure Receipt where
  id : Json
  status : Option String
  deriving Repr

/-- The document of a goal. -/
structure GoalState where
  status : String
  result : Json
  deriving Repr

/-- The room for arrays and objects inside of a document's own. -/
def innerRoom : Nat := nestingBound - 1

/-- The members of a document under their keys, all of which are texts. -/
def keyed? : List (List Glyph × Form) → Option (List (String × Form))
  | [] => some []
  | (key, form) :: rest =>
    match glyphText? key, keyed? rest with
    | some k, some kfs => some ((k, form) :: kfs)
    | _, _ => none

/-- The forms of the member `key`, in order. -/
def formsOf (key : String) (members : List (String × Form)) : List Form :=
  members.filterMap fun (k, form) => if k = key then some form else none

/-- A string. -/
def string? (form : Form) : Option String :=
  match form with
  | .string glyphs => glyphText? glyphs
  | _ => none

/-- A string, or nothing in place of null. -/
def optionalString? : Form → Option (Option String)
  | .null => some none
  | form => (string? form).map some

/-- The receipt of a document: an object, or an array of its members. -/
def Receipt.ofForm? : Form → Option Receipt
  | .object members => do
    let members ← keyed? members
    let id ← match formsOf "id" members with
      | [form] => form.valueWithin innerRoom
      | _ => none
    let status ← match formsOf "status" members with
      | [] => some none
      | [form] => optionalString? form
      | _ => none
    pure ⟨id, status⟩
  | .array [id, status] => do
    let id ← id.valueWithin innerRoom
    let status ← optionalString? status
    pure ⟨id, status⟩
  | _ => none

/-- The goal document of a form: an object, or an array of its members. The result may be
    missing. -/
def GoalState.ofForm? : Form → Option GoalState
  | .object members => do
    let members ← keyed? members
    let status ← match formsOf "status" members with
      | [form] => string? form
      | _ => none
    let result ← match formsOf "result" members with
      | [] => some .null
      | [form] => form.valueWithin innerRoom
      | _ => none
    pure ⟨status, result⟩
  | .array [status] => do
    let status ← string? status
    pure ⟨status, .null⟩
  | .array [status, result] => do
    let status ← string? status
    let result ← result.valueWithin innerRoom
    pure ⟨status, result⟩
  | _ => none

/-- The receipt that bytes write. -/
def Receipt.read? (body : List UInt8) : Option Receipt :=
  (Form.read? (Utf8.symbols body)).bind Receipt.ofForm?

/-- The goal document that bytes write. -/
def GoalState.read? (body : List UInt8) : Option GoalState :=
  (Form.read? (Utf8.symbols body)).bind GoalState.ofForm?

/-! ## Clients -/

/-- A client of an action server. -/
structure Client where
  action : String
  /-- where the action is -/
  url : String
  /-- the goal submitted last -/
  goalId : Option String
  /-- the document of the goal finished last -/
  finished : Option GoalState
  deriving Repr

/-- The client of an action at a server. -/
def Client.ofAction (server action : String) : Client :=
  ⟨action, Text.trimEnd '/' server ++ "/actions/" ++ action, none, none⟩

/-- Where goals are posted. -/
def Client.goalsUrl (c : Client) : String := c.url ++ "/goals"

/-- Where a goal is. -/
def Client.urlOfGoal (c : Client) (id : String) : String := c.url ++ "/goals/" ++ id

/-- The error of a call that a fault ended. -/
def Client.error (c : Client) (fault : RemoteFault) : DispatchFault := .remote c.action fault

/-! ## Waiting for the server -/

/-- Asks for `url` until the answer has the status 200, at most `polls` times. -/
def awaitUp (url : String) : (polls : Nat) → Network → Outcome DispatchFault Unit × Network
  | 0, s => (.crash .endless, s)
  | polls + 1, s =>
    match s.call "GET" url "" with
    | (.ok r, s) => if r.status = 200 then (.ok (), s) else awaitUp url polls s
    | (.error _, s) => awaitUp url polls s

def Client.awaitServer (c : Client) (s : Network) : Called Network Client Unit :=
  let (outcome, s) := awaitUp c.url (s.patience "GET" c.url) s
  ⟨outcome, c, s⟩

/-! ## Submitting a goal -/

/-- What is posted. -/
def submission (goal : Goal) : String :=
  (Json.object [("goal", goal.toJson)]).text

/-- The name of a goal: a string as it is, any other value as its compact text. -/
def Receipt.goalId (r : Receipt) : String := Goal.Result.fieldText r.id

/-- Whether the server refuses the goal right away. -/
def Receipt.isRejected (r : Receipt) : Bool :=
  r.status.bind Goal.Status.ofName? == some .rejected

def Client.submit (goal : Goal) (c : Client) (s : Network) : Submitted Network Client :=
  match s.call "POST" c.goalsUrl (submission goal) with
  | (.error fault, s) => ⟨0, .error (c.error (.submit fault)), c, s⟩
  | (.ok response, s) =>
    match response.whole?.bind Receipt.read? with
    | none => ⟨0, .error (c.error .invalidSubmit), c, s⟩
    | some receipt =>
      if receipt.isRejected then
        ⟨0, .error (.rejected c.action Goal.Status.rejected.name), c, s⟩
      else ⟨1, .ok (), { c with goalId := some receipt.goalId }, s⟩

/-! ## Waiting for the result -/

/-- What one answer to a request for the goal says. -/
inductive Poll where
  /-- the goal is not at its end -/
  | running
  | finished (status : Goal.Status) (document : GoalState)
  | failed (fault : RemoteFault)

/-- What an answer says. -/
def pollOf : Except CallFault Response → Poll
  | .error fault => .failed (.poll fault)
  | .ok response =>
    match response.whole?.bind GoalState.read? with
    | none => .failed .invalidDocument
    | some document =>
      match Goal.Status.ofName? document.status with
      | none => .failed (.unknownStatus document.status)
      | some status => if status.isFinal then .finished status document else .running

/-- Asks for the goal at `url` until an answer ends the wait, at most `polls` times. -/
def awaitEnd (url : String) :
    (polls : Nat) → Network → Outcome RemoteFault (Goal.Status × GoalState) × Network
  | 0, s => (.crash .endless, s)
  | polls + 1, s =>
    let (answer, s) := s.call "GET" url ""
    match pollOf answer with
    | .running => awaitEnd url polls s
    | .finished status document => (.ok (status, document), s)
    | .failed fault => (.error fault, s)

def Client.awaitResult (c : Client) (s : Network) : Called Network Client Goal.Status :=
  match c.goalId with
  | none => ⟨.error (c.error .noGoal), c, s⟩
  | some id =>
    let url := c.urlOfGoal id
    match awaitEnd url (s.patience "GET" url) s with
    | (.ok (status, document), s) => ⟨.ok status, { c with finished := some document }, s⟩
    | (.error fault, s) => ⟨.error (c.error fault), c, s⟩
    | (.crash x, s) => ⟨.crash x, c, s⟩

/-! ## Fetching the result -/

def Client.fetchResult (c : Client) (s : Network) : Called Network Client Goal.Result :=
  match c.finished with
  | none => ⟨.error (c.error .notFinished), c, s⟩
  | some document => ⟨.ok (.ofJson document.result), c, s⟩

/-- The connector for the actions of a server. -/
def connector (server : String) : Connector Network Client where
  connect schema s := (.ok (.ofAction server schema.action), s)
  awaitServer := Client.awaitServer
  submit := Client.submit
  awaitResult := Client.awaitResult
  fetchResult := Client.fetchResult

end ActionBridge.Gateway
