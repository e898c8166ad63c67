import ActionBridge.Proofs.Transactions

/-!
# The stages of a dispatch

A dispatch calls the stages of a client in their order and no further than the first one that fails
(`dispatchAction_stages`). The calls are told by a connector that notes them down (`recording`), so
nothing is assumed of a client: it may fail anywhere, with any error, and tell of any number of
acceptances first.
-/
namespace ActionBridge

/-! ## Calls on a client -/

/-- What a dispatch can ask of a connector and its client. -/
inductive Stage where
  | connect
  | awaitServer
  | submit
  | awaitResult
  | fetchResult
  deriving Repr, DecidableEq

/-- The stages of a dispatch to its end. -/
def Stage.all : List Stage := [.connect, .awaitServer, .submit, .awaitResult, .fetchResult]

/-- A call with what it is given and how it ends. -/
inductive Call (σ : Type) where
  | connect (schema : Goal.Schema) (outcome : Outcome DispatchFault σ)
  | awaitServer (client : σ) (outcome : Outcome DispatchFault Unit)
  | submit (client : σ) (goal : Goal) (accepted : Nat) (outcome : Outcome DispatchFault Unit)
  | awaitResult (client : σ) (outcome : Outcome DispatchFault Goal.Status)
  | fetchResult (client : σ) (outcome : Outcome DispatchFault Goal.Result)

/-- An outcome without its value. -/
def Outcome.ending {ε α : Type} (o : Outcome ε α) : Outcome ε Unit := o.map fun _ => ()

namespace Call

variable {σ : Type}

@[simp]
def stage : Call σ → Stage
  | .connect .. => .connect
  | .awaitServer .. => .awaitServer
  | .submit .. => .submit
  | .awaitResult .. => .awaitResult
  | .fetchResult .. => .fetchResult

@[simp]
def ending : Call σ → Outcome DispatchFault Unit
  | .connect _ outcome => outcome.ending
  | .awaitServer _ outcome => outcome.ending
  | .submit _ _ _ outcome => outcome.ending
  | .awaitResult _ outcome => outcome.ending
  | .fetchResult _ outcome => outcome.ending

/-- How many times a call tells that the goal is accepted. -/
@[simp]
def accepted : Call σ → Nat
  | .submit _ _ accepted _ => accepted
  | _ => 0

/-- The call is about the schema and the goal, as far as it is given any. -/
@[simp]
def Concerns (s : Goal.Schema) (goal : Goal) : Call σ → Prop
  | .connect schema _ => schema = s
  | .submit _ submitted _ _ => submitted = goal
  | _ => True

end Call

variable {ω σ : Type}

/-- The connector that notes down the calls behind the world. -/
def recording (c : Connector ω σ) : Connector (ω × List (Call σ)) σ where
  connect s w :=
    let made := c.connect s w.1
    (made.1, made.2, w.2 ++ [.connect s made.1])
  awaitServer client w :=
    let up := c.awaitServer client w.1
    ⟨up.outcome, up.client, up.world, w.2 ++ [.awaitServer client up.outcome]⟩
  submit goal client w :=
    let sent := c.submit goal client w.1
    ⟨sent.accepted, sent.outcome, sent.client, sent.world,
      w.2 ++ [.submit client goal sent.accepted sent.outcome]⟩
  awaitResult client w :=
    let ended := c.awaitResult client w.1
    ⟨ended.outcome, ended.client, ended.world, w.2 ++ [.awaitResult client ended.outcome]⟩
  fetchResult client w :=
    let fetched := c.fetchResult client w.1
    ⟨fetched.outcome, fetched.client, fetched.world, w.2 ++ [.fetchResult client fetched.outcome]⟩

section Recording

variable (c : Connector ω σ) (w : ω) (log : List (Call σ)) (client : σ)

theorem recording_connect (s : Goal.Schema) : (recording c).connect s (w, log) =
    ((c.connect s w).1, (c.connect s w).2, log ++ [.connect s (c.connect s w).1]) := rfl

theorem recording_awaitServer : (recording c).awaitServer client (w, log) =
    let up := c.awaitServer client w
    ⟨up.outcome, up.client, up.world, log ++ [.awaitServer client up.outcome]⟩ := rfl

theorem recording_submit (goal : Goal) : (recording c).submit goal client (w, log) =
    let sent := c.submit goal client w
    ⟨sent.accepted, sent.outcome, sent.client, sent.world,
      log ++ [.submit client goal sent.accepted sent.outcome]⟩ := rfl

theorem recording_awaitResult : (recording c).awaitResult client (w, log) =
    let ended := c.awaitResult client w
    ⟨ended.outcome, ended.client, ended.world, log ++ [.awaitResult client ended.outcome]⟩ := rfl

theorem recording_fetchResult : (recording c).fetchResult client (w, log) =
    let fetched := c.fetchResult client w
    ⟨fetched.outcome, fetched.client, fetched.world, log ++ [.fetchResult client fetched.outcome]⟩ := rfl

end Recording

/-! ## Failures -/

/-- The second outcome is the failure of the first one. -/
inductive Outcome.Fails {ε α β : Type} : Outcome ε α → Outcome ε β → Prop
  | error (e : ε) : Fails (.error e) (.error e)
  | crash (x : Crash) : Fails (.crash x) (.crash x)

variable {ε α β : Type} {o : Outcome ε α} {o₁ : Outcome ε β}

@[simp]
theorem Outcome.ending_ok (a : α) : (Outcome.ok a : Outcome ε α).ending = .ok () := rfl

theorem Outcome.Fails.ending_eq (fails : o.Fails o₁) : o₁.ending = o.ending := by
  cases fails <;> rfl

theorem Outcome.Fails.ending_ne (fails : o.Fails o₁) : o.ending ≠ .ok () := by
  cases fails <;> nofun

theorem Outcome.Fails.ne_ok (fails : o.Fails o₁) (b : β) : o₁ ≠ .ok b := by
  cases fails <;> nofun

/-! ## Ways to end -/

variable {s : Goal.Schema} {goal : Goal} {log : List (Call σ)}
  {outcome : Outcome DispatchFault String}

/-- How a dispatch ends once its goal is submitted. -/
inductive Collects (s : Goal.Schema) : List (Call σ) → Outcome DispatchFault String → Prop
  | lost {client : σ} {ended : Outcome DispatchFault Goal.Status}
      {outcome : Outcome DispatchFault String} (fails : ended.Fails outcome) :
      Collects s [.awaitResult client ended] outcome
  | rejected {client : σ} {status : Goal.Status} (other : status ≠ .succeeded) :
      Collects s [.awaitResult client (.ok status)] (.error (.rejected s.action status.name))
  | unfetched {client client₁ : σ} {fetched : Outcome DispatchFault Goal.Result}
      {outcome : Outcome DispatchFault String} (fails : fetched.Fails outcome) :
      Collects s [.awaitResult client (.ok .succeeded), .fetchResult client₁ fetched] outcome
  | reported {client client₁ : σ} (result : Goal.Result) :
      Collects s [.awaitResult client (.ok .succeeded), .fetchResult client₁ (.ok result)]
        (.ofExcept (s.report result))

/-- How a dispatch ends that is let through to the client. -/
inductive Ends (s : Goal.Schema) (goal : Goal) : List (Call σ) → Outcome DispatchFault String → Prop
  | unconnected {made : Outcome DispatchFault σ} {outcome : Outcome DispatchFault String}
      (fails : made.Fails outcome) : Ends s goal [.connect s made] outcome
  | down {client : σ} {up : Outcome DispatchFault Unit} {outcome : Outcome DispatchFault String}
      (fails : up.Fails outcome) :
      Ends s goal [.connect s (.ok client), .awaitServer client up] outcome
  | unsubmitted {client client₁ : σ} {accepted : Nat} {sent : Outcome DispatchFault Unit}
      {outcome : Outcome DispatchFault String} (fails : sent.Fails outcome) :
      Ends s goal [.connect s (.ok client), .awaitServer client (.ok ()),
        .submit client₁ goal accepted sent] outcome
  | collected {client client₁ : σ} {accepted : Nat} {log : List (Call σ)}
      {outcome : Outcome DispatchFault String} (collects : Collects s log outcome) :
      Ends s goal (.connect s (.ok client) :: .awaitServer client (.ok ()) ::
        .submit client₁ goal accepted (.ok ()) :: log) outcome

theorem collect_recording (c : Connector ω σ) (s : Goal.Schema) (client : σ) (w : ω)
    (before : List (Call σ)) :
    ∃ log, collect (recording c) s client (w, before) =
        ((collect c s client w).1, (collect c s client w).2, before ++ log) ∧
      Collects s log (collect c s client w).1 := by
  cases ended : c.awaitResult client w with | mk outcome client₁ w₁ =>
  cases outcome with
  | crash x =>
    simp only [collect, recording_awaitResult, ended]
    exact ⟨_, rfl, .lost (.crash x)⟩
  | error e =>
    simp only [collect, recording_awaitResult, ended]
    exact ⟨_, rfl, .lost (.error e)⟩
  | ok status =>
    by_cases other : status = .succeeded
    · subst other
      cases fetched : c.fetchResult client₁ w₁ with | mk outcome client₂ w₂ =>
      simp only [collect, recording_awaitResult, recording_fetchResult, ended, fetched, ne_eq, not_true,
        if_false, List.append_assoc]
      cases outcome with
      | crash x => exact ⟨_, rfl, .unfetched (.crash x)⟩
      | error e => exact ⟨_, rfl, .unfetched (.error e)⟩
      | ok result => exact ⟨_, rfl, .reported result⟩
    · simp only [collect, recording_awaitResult, ended, ne_eq, other, not_false_iff, if_true]
      exact ⟨_, rfl, .rejected other⟩

/-- How many times the client tells of an acceptance in the course of the calls. -/
def acceptedIn : List (Call σ) → Nat
  | [] => 0
  | call :: log => call.accepted + acceptedIn log

theorem Collects.acceptedIn_eq (collects : Collects s log outcome) : acceptedIn log = 0 := by
  cases collects <;> rfl

theorem runGoal_recording (c : Connector ω σ) (s : Goal.Schema) (announceActive : Bool) (goal : Goal)
    (w : ω) :
    let d := runGoal c s announceActive goal w
    ∃ log, runGoal (recording c) s announceActive goal (w, []) = ⟨d.outcome, d.calls, (d.world, log)⟩ ∧
      Ends s goal log d.outcome ∧ d.calls = acceptances announceActive s.dataItem (acceptedIn log) := by
  intro d
  have silent := acceptances_zero announceActive s.dataItem
  cases made : c.connect s w with | mk connected w₁ =>
  cases connected with
  | crash x =>
    simp only [d, runGoal, recording_connect, made]
    exact ⟨_, rfl, .unconnected (.crash x), silent.symm⟩
  | error e =>
    simp only [d, runGoal, recording_connect, made]
    exact ⟨_, rfl, .unconnected (.error e), silent.symm⟩
  | ok client =>
    cases up : c.awaitServer client w₁ with | mk ready client₁ w₂ =>
    cases ready with
    | crash x =>
      simp only [d, runGoal, recording_connect, recording_awaitServer, made, up]
      exact ⟨_, rfl, .down (.crash x), silent.symm⟩
    | error e =>
      simp only [d, runGoal, recording_connect, recording_awaitServer, made, up]
      exact ⟨_, rfl, .down (.error e), silent.symm⟩
    | ok ready =>
      cases sent : c.submit goal client₁ w₂ with | mk accepted submitted client₂ w₃ =>
      simp only [d, runGoal, recording_connect, recording_awaitServer, recording_submit, made, up, sent]
      cases submitted with
      | crash x => exact ⟨_, rfl, .unsubmitted (.crash x), by simp [acceptedIn]⟩
      | error e => exact ⟨_, rfl, .unsubmitted (.error e), by simp [acceptedIn]⟩
      | ok submitted =>
        obtain ⟨log, collected, collects⟩ := collect_recording c s client₂ w₃
          [.connect s (.ok client), .awaitServer client (.ok ()), .submit client₁ goal accepted (.ok ())]
        have ends : Ends s goal (.connect s (.ok client) :: .awaitServer client (.ok ()) ::
            .submit client₁ goal accepted (.ok ()) :: log) (collect c s client₂ w₃).1 :=
          .collected collects
        refine ⟨_, ?_, ends, ?_⟩
        · simp only [List.nil_append, List.cons_append] at collected ⊢
          rw [collected]
        · have quiet := collects.acceptedIn_eq
          simp [acceptedIn, quiet]

/-! ## The lifecycle -/

/-- The result has the field that is reported, or any if none is configured, and `text` is its text. -/
def Goal.Schema.Reports (s : Goal.Schema) (result : Goal.Result) (text : String) : Prop :=
  match s.resultField with
  | some field => result.get? field = some text
  | none => ∃ field others, result.fields = (field, text) :: others

theorem report_eq_ok_iff {result : Goal.Result} {text : String} :
    s.report result = .ok text ↔ s.Reports result text := by
  unfold Goal.Schema.report Goal.Schema.Reports
  cases s.resultField with
  | some field =>
    cases found : result.get? field <;> simp [Goal.Result.text?, found]
  | none =>
    cases fields : result.fields with
    | nil => simp [Goal.Result.text?, fields]
    | cons entry others => simp [Goal.Result.text?, fields, Prod.ext_iff]

/-- What a dispatch asks of the client and what it gives, by the calls on the client. -/
structure Lifecycle (s : Goal.Schema) (goal : Goal) (log : List (Call σ))
    (outcome : Outcome DispatchFault String) : Prop where
  /-- it calls the stages in their order, from the first one on and each at most once -/
  starts : log ≠ []
  order : log.map Call.stage <+: Stage.all
  concerns : ∀ call ∈ log, call.Concerns s goal
  /-- no call follows one that fails -/
  stops : ∀ call ∈ log.dropLast, call.ending = .ok ()
  /-- the failure of a call is that of the dispatch -/
  fails : ∀ call ∈ log, call.ending ≠ .ok () → outcome.ending = call.ending
  /-- as long as none fails it goes on, unless the goal ends in another way than by success -/
  goesOn : (∀ call ∈ log, call.ending = .ok ()) → log.map Call.stage = Stage.all ∨
    ∃ client status, log.getLast? = some (.awaitResult client (.ok status)) ∧ status ≠ .succeeded
  /-- it asks for the result of a goal that succeeded only -/
  fetches : .fetchResult ∈ log.map Call.stage → ∃ client, .awaitResult client (.ok .succeeded) ∈ log
  rejects : ∀ client status, .awaitResult client (.ok status) ∈ log → status ≠ .succeeded →
    outcome = .error (.rejected s.action status.name)
  reports : ∀ text, outcome = .ok text ↔ log.map Call.stage = Stage.all ∧
    (∀ call ∈ log, call.ending = .ok ()) ∧
    ∃ client result, .fetchResult client (.ok result) ∈ log ∧ s.Reports result text
  lacks : ∀ client result, .fetchResult client (.ok result) ∈ log →
    (∀ text, ¬ s.Reports result text) → outcome = .error (.remote s.action .noValue)

theorem Ends.starts (ends : Ends s goal log outcome) : log ≠ [] := by
  cases ends <;> nofun

theorem Ends.order (ends : Ends s goal log outcome) : log.map Call.stage <+: Stage.all := by
  cases ends with
  | unconnected fails => simp [Stage.all]
  | down fails => simp [Stage.all]
  | unsubmitted fails => simp [Stage.all]
  | collected collects => cases collects <;> simp [Stage.all]

theorem Ends.concerns (ends : Ends s goal log outcome) : ∀ call ∈ log, call.Concerns s goal := by
  cases ends with
  | unconnected fails => simp
  | down fails => simp
  | unsubmitted fails => simp
  | collected collects => cases collects <;> simp

theorem Ends.stops (ends : Ends s goal log outcome) : ∀ call ∈ log.dropLast, call.ending = .ok () := by
  cases ends with
  | unconnected fails => simp
  | down fails => simp
  | unsubmitted fails => simp
  | collected collects => cases collects <;> simp

theorem Ends.fails (ends : Ends s goal log outcome) :
    ∀ call ∈ log, call.ending ≠ .ok () → outcome.ending = call.ending := by
  cases ends with
  | unconnected fails => simp [fails.ending_eq]
  | down fails => simp [fails.ending_eq]
  | unsubmitted fails => simp [fails.ending_eq]
  | collected collects =>
    cases collects with
    | lost fails => simp [fails.ending_eq]
    | rejected other => simp
    | unfetched fails => simp [fails.ending_eq]
    | reported result => simp

theorem Ends.goesOn (ends : Ends s goal log outcome) (well : ∀ call ∈ log, call.ending = .ok ()) :
    log.map Call.stage = Stage.all ∨
      ∃ client status, log.getLast? = some (.awaitResult client (.ok status)) ∧ status ≠ .succeeded := by
  cases ends with
  | unconnected fails => simp [fails.ending_ne] at well
  | down fails => simp [fails.ending_ne] at well
  | unsubmitted fails => simp [fails.ending_ne] at well
  | collected collects =>
    cases collects with
    | lost fails => simp [fails.ending_ne] at well
    | rejected other => exact .inr ⟨_, _, rfl, other⟩
    | unfetched fails => exact .inl rfl
    | reported result => exact .inl rfl

theorem Ends.fetches (ends : Ends s goal log outcome) :
    .fetchResult ∈ log.map Call.stage → ∃ client, .awaitResult client (.ok .succeeded) ∈ log := by
  cases ends with
  | unconnected fails => simp
  | down fails => simp
  | unsubmitted fails => simp
  | collected collects => cases collects <;> simp

theorem Ends.rejects (ends : Ends s goal log outcome) (client : σ) (status : Goal.Status)
    (awaited : .awaitResult client (.ok status) ∈ log) (other : status ≠ .succeeded) :
    outcome = .error (.rejected s.action status.name) := by
  cases ends with
  | unconnected fails => simp at awaited
  | down fails => simp at awaited
  | unsubmitted fails => simp at awaited
  | collected collects =>
    cases collects with
    | @lost client₁ ended outcome fails =>
      obtain ⟨-, rfl⟩ : client = client₁ ∧ Outcome.ok status = ended := by simpa using awaited
      exact absurd rfl fails.ending_ne
    | @rejected client₁ status₁ other₁ =>
      obtain ⟨-, rfl⟩ : client = client₁ ∧ status = status₁ := by simpa using awaited
      rfl
    | unfetched fails => simp [other] at awaited
    | reported result => simp [other] at awaited

theorem Ends.reports (ends : Ends s goal log outcome) (text : String) :
    outcome = .ok text ↔ log.map Call.stage = Stage.all ∧ (∀ call ∈ log, call.ending = .ok ()) ∧
      ∃ client result, .fetchResult client (.ok result) ∈ log ∧ s.Reports result text := by
  cases ends with
  | unconnected fails => simp [Stage.all, fails.ne_ok]
  | down fails => simp [Stage.all, fails.ne_ok]
  | unsubmitted fails => simp [Stage.all, fails.ne_ok]
  | collected collects =>
    cases collects with
    | lost fails => simp [Stage.all, fails.ne_ok]
    | rejected other => simp [Stage.all]
    | unfetched fails => simp [fails.ne_ok, fails.ending_ne]
    | reported result =>
      simp only [← report_eq_ok_iff]
      cases reported : s.report result with
      | error fault => simp [Outcome.ofExcept, reported]
      | ok text₁ => simp [Stage.all, Outcome.ofExcept, reported]

theorem Ends.lacks (ends : Ends s goal log outcome) (client : σ) (result : Goal.Result)
    (fetched : .fetchResult client (.ok result) ∈ log) (none_of : ∀ text, ¬ s.Reports result text) :
    outcome = .error (.remote s.action .noValue) := by
  cases ends with
  | unconnected fails => simp at fetched
  | down fails => simp at fetched
  | unsubmitted fails => simp at fetched
  | collected collects =>
    cases collects with
    | lost fails => simp at fetched
    | rejected other => simp at fetched
    | @unfetched client₁ client₂ ended outcome fails =>
      obtain ⟨-, rfl⟩ : client = client₂ ∧ Outcome.ok result = ended := by simpa using fetched
      exact absurd rfl fails.ending_ne
    | @reported client₁ client₂ result₁ =>
      obtain ⟨-, rfl⟩ : client = client₂ ∧ result = result₁ := by simpa using fetched
      simp only [← report_eq_ok_iff] at none_of
      cases text : result.text? s.resultField with
      | some text => simp [Goal.Schema.report, text] at none_of
      | none => simp [Goal.Schema.report, text, Outcome.ofExcept]

theorem Ends.lifecycle (ends : Ends s goal log outcome) : Lifecycle s goal log outcome where
  starts := ends.starts
  order := ends.order
  concerns := ends.concerns
  stops := ends.stops
  fails := ends.fails
  goesOn := ends.goesOn
  fetches := ends.fetches
  rejects := ends.rejects
  reports := ends.reports
  lacks := ends.lacks

/-! ## Dispatches -/

/-- A goal of no registered action, or of another size than its schema, is turned away without a call
    on the connector. For any other goal the stages are called in order (`Lifecycle`). The sink hears of
    each acceptance in one transaction if these are to be announced, and of nothing else. -/
theorem dispatchAction_stages (c : Connector ω σ) (r : Registry) (announceActive : Bool) (goal : Goal)
    (w : ω) :
    let d := dispatchAction c r announceActive goal w
    ∃ log, dispatchAction (recording c) r announceActive goal (w, []) =
        ⟨d.outcome, d.calls, (d.world, log)⟩ ∧
      match r.get? goal.action with
      | none => log = [] ∧ d.calls = [] ∧ d.outcome = .error (.unknownAction goal.action)
      | some s =>
        if goal.fields.length = s.fields.length then
          Lifecycle s goal log d.outcome ∧ d.calls = if announceActive then
            (List.replicate (acceptedIn log) [.begin, .set s.dataItem "ACTIVE", .complete]).flatten else []
        else log = [] ∧ d.calls = [] ∧
          d.outcome = .error (.schemaMismatch s.action s.fields.length goal.fields.length) := by
  intro d
  cases known : r.get? goal.action with
  | none =>
    simp only [d, dispatchAction, known]
    exact ⟨[], rfl, rfl, trivial, trivial⟩
  | some s =>
    by_cases fits : goal.fields.length = s.fields.length
    · obtain ⟨log, recorded, ends, told⟩ := runGoal_recording c s announceActive goal w
      simp only [d, dispatchAction, known, fits, ne_eq, not_true, if_false, if_true]
      exact ⟨log, recorded, ends.lifecycle, told⟩
    · simp only [d, dispatchAction, known, fits, ne_eq, not_false_iff, if_false, if_true]
      exact ⟨[], rfl, rfl, trivial, trivial⟩

end ActionBridge
