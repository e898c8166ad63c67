import ActionBridge.Action.Gateway
import ActionBridge.Proofs.Http.Script
import ActionBridge.Proofs.Transactions

/-!
# Dispatches over HTTP

What a dispatch asks of an action server is decided by the server's scripts alone: the action until it
is up, one submission, and the goal until its end (`dispatchAction_http`).
-/
namespace ActionBridge.Gateway
open Http

/-! ## What answers say -/

/-- The name of a submitted goal, if the answer to the submission is a receipt that is no refusal. -/
def submittedId? (r : Response) : Option String := do
  let heard ← heard? r
  let receipt ← heard.whole?.bind Receipt.read?
  if receipt.isRejected then none else some receipt.goalId

/-- The status of a goal and its document, if the answer is a document with a known status. -/
def reading? (r : Response) : Option (Goal.Status × GoalState) := do
  let heard ← heard? r
  let document ← heard.whole?.bind GoalState.read?
  let status ← Goal.Status.ofName? document.status
  pure (status, document)

/-- The answer about a goal that is not at its end. -/
def IsRunning (r : Response) : Prop := ∃ state ∈ reading? r, state.1.isFinal = false

instance (r : Response) : Decidable (IsRunning r) := inferInstanceAs (Decidable (∃ state ∈ _, _))

/-- What the answer that ends the wait for a goal reports: of a success, the text of the given field of
    its result, or of the first field if none is given. -/
def reported? (field : Option String) (r : Response) : Option String := do
  let (status, document) ← reading? r
  if status = .succeeded then (Goal.Result.ofJson document.result).text? field else none

theorem pollOf_cases (r : Response) :
    (∃ status document, reading? r = some (status, document) ∧ ∀ shown, pollOf (r.accepted shown)
        = if status.isFinal then .finished status document else .running) ∨
      reading? r = none ∧ ∀ shown, ∃ fault, pollOf (r.accepted shown) = .failed fault := by
  rcases accepted_cases r with ⟨heard, hears, accepts⟩ | ⟨deaf, fails⟩
  · simp only [reading?, hears, accepts, pollOf, Option.bind_eq_bind, Option.bind_some, Option.pure_def]
    cases read : heard.whole?.bind GoalState.read? with
    | none =>
      simp only [Option.bind_none]
      exact .inr ⟨trivial, fun shown => ⟨_, rfl⟩⟩
    | some document =>
      simp only [Option.bind_some]
      cases named : Goal.Status.ofName? document.status with
      | none =>
        simp only [Option.bind_none]
        exact .inr ⟨trivial, fun shown => ⟨_, rfl⟩⟩
      | some status =>
        simp only [Option.bind_some]
        exact .inl ⟨status, document, rfl, fun shown => rfl⟩
  · refine .inr ⟨by simp [reading?, deaf], fun shown => ?_⟩
    obtain ⟨fault, failed⟩ := fails shown
    exact ⟨_, by rw [failed]; rfl⟩

theorem pollOf_of_isRunning {r : Response} (running : IsRunning r) (shown : String) :
    pollOf (r.accepted shown) = .running := by
  obtain ⟨⟨status, document⟩, reads, unfinished⟩ := running
  have reads : reading? r = some (status, document) := reads
  rcases pollOf_cases r with ⟨status', document', reads', polled⟩ | ⟨unread, -⟩
  · obtain ⟨rfl, rfl⟩ := Prod.mk.inj (Option.some.inj (reads.symm.trans reads'))
    rw [polled, unfinished, if_neg Bool.false_ne_true]
  · rw [reads] at unread
    nomatch unread

/-- How the wait for the end of a goal ends with an answer. -/
def Ending (r : Response) : Outcome RemoteFault (Goal.Status × GoalState) → Prop
  | .ok state => reading? r = some state
  | .error _ => reading? r = none
  | .crash _ => False

/-- An answer about a goal that is not running ends the wait. -/
theorem pollOf_of_not_isRunning {r : Response} (ended : ¬ IsRunning r) (shown : String) :
    (∃ status document, pollOf (r.accepted shown) = .finished status document ∧
        Ending r (.ok (status, document))) ∨
      ∃ fault, pollOf (r.accepted shown) = .failed fault ∧ Ending r (.error fault) := by
  rcases pollOf_cases r with ⟨status, document, reads, polled⟩ | ⟨unread, fails⟩
  · have final : status.isFinal = true := by
      by_contra unfinished
      exact ended ⟨(status, document), reads, Bool.not_eq_true _ ▸ unfinished⟩
    exact .inl ⟨status, document, by rw [polled, if_pos final], reads⟩
  · obtain ⟨fault, failed⟩ := fails shown
    exact .inr ⟨fault, failed, unread⟩

/-! ## Waiting -/

variable {s : Network} {url : String} {target : Target} {n : Nat}

/-- The wait for the action ends with the first answer that it is up. -/
theorem awaitUp_eq (leads : s.target? url = some target)
    (least : IsLeast {k | IsOk (s.answer (Request.line ⟨"GET", target, ""⟩) k)} n) {polls : Nat}
    (enough : n < polls) :
    awaitUp url polls s = (.ok (), s.after (List.replicate (n + 1) ⟨"GET", target, ""⟩)) := by
  -- One request takes one answer of the script, so the wait behind it is for the answer before `n`.
  induction polls generalizing s n with
  | zero => exact absurd enough (Nat.not_lt_zero n)
  | succ polls ih =>
    obtain ⟨shown, calls⟩ := call_of_target? leads
    rw [awaitUp, calls]
    cases n with
    | zero =>
      rcases isOk_cases (s.answer (Request.line ⟨"GET", target, ""⟩) 0) with
        ⟨heard, -, up, accepts⟩ | ⟨notUp, -⟩
      · simp only [accepts, up, if_true]
        rfl
      · exact absurd least.1 notUp
    | succ n =>
      obtain ⟨notUp, later⟩ := isLeast_after least
      have again := ih ((target?_after s _ url).trans leads) later (Nat.lt_of_succ_lt_succ enough)
      have whole : (s.after [⟨"GET", target, ""⟩]).after (List.replicate (n + 1) ⟨"GET", target, ""⟩)
          = s.after (List.replicate (n + 2) ⟨"GET", target, ""⟩) := rfl
      rcases isOk_cases (s.answer (Request.line ⟨"GET", target, ""⟩) 0) with
        ⟨heard, hears, up, -⟩ | ⟨-, ⟨heard, other, accepts⟩ | fails⟩
      · exact absurd ⟨heard, hears, up⟩ notUp
      · simp only [accepts, if_neg other, again, whole]
      · obtain ⟨fault, failed⟩ := fails shown
        simp only [failed, again, whole]

theorem awaitEnd_eq (leads : s.target? url = some target)
    (least : IsLeast {k | ¬ IsRunning (s.answer (Request.line ⟨"GET", target, ""⟩) k)} n) {polls : Nat}
    (enough : n < polls) :
    ∃ outcome, Ending (s.answer (Request.line ⟨"GET", target, ""⟩) n) outcome ∧
      awaitEnd url polls s = (outcome, s.after (List.replicate (n + 1) ⟨"GET", target, ""⟩)) := by
  induction polls generalizing s n with
  | zero => exact absurd enough (Nat.not_lt_zero n)
  | succ polls ih =>
    obtain ⟨shown, calls⟩ := call_of_target? leads
    simp only [awaitEnd, calls]
    cases n with
    | zero =>
      rcases pollOf_of_not_isRunning least.1 shown with
        ⟨status, document, polled, ending⟩ | ⟨fault, polled, ending⟩
      · refine ⟨_, ending, ?_⟩
        rw [polled]
        rfl
      · refine ⟨_, ending, ?_⟩
        rw [polled]
        rfl
    | succ n =>
      obtain ⟨notEnded, later⟩ := isLeast_after (p := fun r => ¬ IsRunning r) least
      have polled := pollOf_of_isRunning (Classical.not_not.mp notEnded) shown
      obtain ⟨outcome, ending, again⟩ :=
        ih ((target?_after s _ url).trans leads) later (Nat.lt_of_succ_lt_succ enough)
      rw [answer_after_singleton s ⟨"GET", target, ""⟩ n] at ending
      refine ⟨outcome, ending, ?_⟩
      rw [polled]
      exact again

/-! ## Submitting -/

/-- The answer to the submission says whether the goal is taken, and under which name. -/
theorem submit_cases (c : Client) (goal : Goal) (leads : s.target? c.goalsUrl = some target) :
    let post : Request := ⟨"POST", target, submission goal⟩
    (submittedId? (s.answer post.line 0) = none ∧
        ∃ fault, c.submit goal s = ⟨0, .error fault, c, s.after [post]⟩) ∨
      ∃ id, submittedId? (s.answer post.line 0) = some id ∧
        c.submit goal s = ⟨1, .ok (), { c with goalId := some id }, s.after [post]⟩ := by
  intro post
  obtain ⟨shown, calls⟩ := call_of_target? leads
  rw [Client.submit, calls]
  rcases accepted_cases (s.answer post.line 0) with ⟨heard, hears, accepts⟩ | ⟨deaf, fails⟩
  · simp only [submittedId?, hears, accepts, post, Option.bind_eq_bind, Option.bind_some]
    cases read : heard.whole?.bind Receipt.read? with
    | none => exact .inl ⟨rfl, _, rfl⟩
    | some receipt =>
      simp only [Option.bind_some]
      cases refused : receipt.isRejected with
      | true => exact .inl ⟨rfl, _, rfl⟩
      | false => exact .inr ⟨_, rfl, rfl⟩
  · obtain ⟨fault, failed⟩ := fails shown
    refine .inl ⟨by rw [submittedId?, deaf]; rfl, ?_⟩
    simp only [failed, post]
    exact ⟨_, rfl⟩

/-! ## Collecting -/

/-- A dispatch of which the goal is taken ends with the first answer that the goal is at its end, and
    returns what this answer reports of a success. -/
theorem collect_eq {c : Client} {id : String} (submitted : c.goalId = some id)
    (leads : s.target? (c.urlOfGoal id) = some target)
    (least : IsLeast {k | ¬ IsRunning (s.answer (Request.line ⟨"GET", target, ""⟩) k)} n)
    (server : String) (schema : Goal.Schema) :
    ∃ outcome, collect (connector server) schema c s
        = (outcome, s.after (List.replicate (n + 1) ⟨"GET", target, ""⟩)) ∧
      (∀ x, outcome ≠ .crash x) ∧ ∀ t, outcome = .ok t ↔
        reported? schema.resultField (s.answer (Request.line ⟨"GET", target, ""⟩) n) = some t := by
  have enough : n < s.patience "GET" (c.urlOfGoal id) :=
    lt_patience (p := fun r => ¬ IsRunning r) leads least
  obtain ⟨ended, ending, waited⟩ := awaitEnd_eq leads least enough
  cases ended with
  | crash x => exact ending.elim
  | error fault =>
    have unread : reading? (s.answer (Request.line ⟨"GET", target, ""⟩) n) = none := ending
    have result : c.awaitResult s = ⟨.error (c.error fault), c,
        s.after (List.replicate (n + 1) ⟨"GET", target, ""⟩)⟩ := by
      simp only [Client.awaitResult, submitted, waited]
    refine ⟨.error (c.error fault), by simp only [collect, connector, result], nofun, fun t => ?_⟩
    simp [reported?, unread]
  | ok state =>
    obtain ⟨status, document⟩ := state
    have reads : reading? (s.answer (Request.line ⟨"GET", target, ""⟩) n) = some (status, document) :=
      ending
    have result : c.awaitResult s = ⟨.ok status, { c with finished := some document },
        s.after (List.replicate (n + 1) ⟨"GET", target, ""⟩)⟩ := by
      simp only [Client.awaitResult, submitted, waited]
    by_cases succeeded : status = .succeeded
    · refine ⟨.ofExcept (schema.report (.ofJson document.result)), ?_, ?_⟩
      · simp only [collect, connector, result, succeeded, ne_eq, not_true_eq_false, if_false,
          Client.fetchResult]
      · rw [Goal.Schema.report, reported?, reads, succeeded]
        cases text : (Goal.Result.ofJson document.result).text? schema.resultField with
        | none => exact ⟨nofun, fun t => by simp [Outcome.ofExcept, text]⟩
        | some result => exact ⟨nofun, fun t => by simp [Outcome.ofExcept, text]⟩
    · refine ⟨.error (.rejected schema.action status.name), ?_, nofun, fun t => ?_⟩
      · simp only [collect, connector, result, succeeded, ne_eq, not_false_eq_true, if_true]
      · simp [reported?, reads, succeeded]

/-! ## Where actions and goals are -/

/-- The path of an action. -/
def actionPath (action : String) : String := "/actions/" ++ action

/-- The path where the goals of an action are posted. -/
def goalsPath (action : String) : String := actionPath action ++ "/goals"

/-- The path of a goal. -/
def goalPath (action id : String) : String := actionPath action ++ "/goals/" ++ id

theorem url_ofAction (server action : String) :
    (Client.ofAction server action).url = Text.trimEnd '/' server ++ actionPath action := by
  rw [Client.ofAction, actionPath, String.append_assoc]

theorem goalsUrl_ofAction (server action : String) :
    (Client.ofAction server action).goalsUrl = Text.trimEnd '/' server ++ goalsPath action := by
  rw [Client.goalsUrl, url_ofAction, goalsPath, String.append_assoc]

theorem urlOfGoal_ofAction (server action id : String) :
    (Client.ofAction server action).urlOfGoal id = Text.trimEnd '/' server ++ goalPath action id := by
  simp only [Client.urlOfGoal, url_ofAction, goalPath, String.append_assoc]

theorem plain_actions : Plain "actions".toList := by decide

theorem plain_goals : Plain "goals".toList := by decide

section Paths

variable {action id : String} (plain : Plain action.toList)
include plain

theorem plain_action : ∀ segment ∈ ["actions".toList, action.toList], Plain segment :=
  List.forall_mem_cons.mpr ⟨plain_actions, List.forall_mem_singleton.mpr plain⟩

theorem plain_action_goals :
    ∀ segment ∈ ["actions".toList, action.toList] ++ ["goals".toList], Plain segment :=
  List.forall_mem_append.mpr ⟨plain_action plain, List.forall_mem_singleton.mpr plain_goals⟩

def plainPath_action : PlainPath (actionPath action) :=
  .ofSegments _ (by simp [actionPath, slashed]) (List.cons_ne_nil _ _) (plain_action plain)

def plainPath_goals : PlainPath (goalsPath action) :=
  .ofSegments _ (by simp [goalsPath, actionPath, slashed]) (List.cons_ne_nil _ _)
    (plain_action_goals plain)

def plainPath_goal (plainId : Plain id.toList) : PlainPath (goalPath action id) :=
  .ofSegments (["actions".toList, action.toList] ++ ["goals".toList] ++ [id.toList])
    (by simp [goalPath, actionPath, slashed]) (List.cons_ne_nil _ _)
    (List.forall_mem_append.mpr ⟨plain_action_goals plain, List.forall_mem_singleton.mpr plainId⟩)

end Paths

/-! ## Whole dispatches -/

/-- The question whether an action is up. -/
def readiness (folder : Target) (action : String) : Request := ⟨"GET", folder ++ actionPath action, ""⟩

/-- The submission of a goal. -/
def posting (folder : Target) (goal : Goal) : Request :=
  ⟨"POST", folder ++ goalsPath goal.action, submission goal⟩

/-- The question about a goal. -/
def polling (folder : Target) (action id : String) : Request := ⟨"GET", folder ++ goalPath action id, ""⟩

theorem line_readiness_ne_posting (folder : Target) (action : String) (goal : Goal) :
    (posting folder goal).line ≠ (readiness folder action).line := by
  intro same
  have first := congrArg (fun line => line.text.toList.head?) same
  simp [Request.line, posting, readiness] at first

theorem line_polling_ne_posting (folder : Target) (action id : String) (goal : Goal) :
    (polling folder action id).line ≠ (posting folder goal).line := by
  intro same
  have first := congrArg (fun line => line.text.toList.head?) same
  simp [Request.line, posting, polling] at first

theorem line_polling_ne_readiness (folder : Target) (action id : String) :
    (polling folder action id).line ≠ (readiness folder action).line := by
  intro same
  have lengths := congrArg (fun line => line.text.length) same
  have longer : "/goals/".length = 7 := by decide
  simp [Request.line, polling, readiness, goalPath, longer] at lengths
  omega

theorem line_polling_notMem (folder : Target) (goal : Goal) (id : String) (n : Nat) :
    (polling folder goal.action id).line ∉
      (List.replicate (n + 1) (readiness folder goal.action) ++ [posting folder goal]).map
        Request.line := by
  rw [List.map_append, List.map_replicate, List.mem_append, not_or, List.map_singleton,
    List.mem_singleton]
  refine ⟨fun member => ?_, line_polling_ne_posting folder goal.action id goal⟩
  exact line_polling_ne_readiness folder goal.action id (List.eq_of_mem_replicate member)

section Dispatch

variable {schema : Goal.Schema} {goal : Goal} {server : String} {folder : Target}

/-- Up to the submission a dispatch asks for the action until it is up, and posts the goal once. -/
theorem runGoal_submits (named : schema.action = goal.action)
    (serves : s.Serves (Text.trimEnd '/' server) folder) (plain : Plain goal.action.toList)
    (firstUp : IsLeast {k | IsOk (s.answer (readiness folder goal.action).line k)} n)
    (announceActive : Bool) :
    let c := Client.ofAction server goal.action
    let sent := s.after (List.replicate (n + 1) (readiness folder goal.action) ++ [posting folder goal])
    let d := runGoal (connector server) schema announceActive goal s
    (submittedId? (s.answer (posting folder goal).line 0) = none ∧
        ∃ fault, d = ⟨.error fault, [], sent⟩) ∨
      ∃ id, submittedId? (s.answer (posting folder goal).line 0) = some id ∧
        let ended := collect (connector server) schema { c with goalId := some id } sent
        d = ⟨ended.1, acceptances announceActive schema.dataItem 1, ended.2⟩ := by
  intro c sent d
  have leads : s.target? c.url = some (folder ++ actionPath goal.action) := by
    rw [url_ofAction]
    exact serves.target?_append (plainPath_action plain)
  have enough : n < s.patience "GET" c.url := lt_patience leads firstUp
  have waited : c.awaitServer s
      = ⟨.ok (), c, s.after (List.replicate (n + 1) (readiness folder goal.action))⟩ := by
    rw [Client.awaitServer, awaitUp_eq leads firstUp enough]
    rfl
  have leadsGoals : (s.after (List.replicate (n + 1) (readiness folder goal.action))).target? c.goalsUrl
      = some (folder ++ goalsPath goal.action) := by
    rw [target?_after, goalsUrl_ofAction]
    exact serves.target?_append (plainPath_goals plain)
  have first : (s.after (List.replicate (n + 1) (readiness folder goal.action))).answer
      (posting folder goal).line 0 = s.answer (posting folder goal).line 0 := by
    refine answer_after_of_notMem s ?_ 0
    rw [List.map_replicate]
    exact fun member =>
      line_readiness_ne_posting folder goal.action goal (List.eq_of_mem_replicate member)
  have together : sent = (s.after (List.replicate (n + 1) (readiness folder goal.action))).after
      [posting folder goal] := after_append s _ _
  rw [together]
  rcases submit_cases c goal leadsGoals with ⟨refused, fault, submitted⟩ | ⟨id, taken, submitted⟩
  · refine .inl ⟨first ▸ refused, fault, ?_⟩
    simp only [d, runGoal, connector, named, waited, c, submitted, acceptances_zero]
    rfl
  · refine .inr ⟨id, first ▸ taken, ?_⟩
    simp only [d, runGoal, connector, named, waited, c, submitted]
    rfl

/-- Behind the submission the goal is asked for up to the first answer that it is at its end, which is
    as late as it would be without the requests before. -/
theorem collect_after_submission (serves : s.Serves (Text.trimEnd '/' server) folder)
    (plain : Plain goal.action.toList) {id : String} (plainId : Plain id.toList) {k : Nat}
    (firstEnd : IsLeast {i | ¬ IsRunning (s.answer (polling folder goal.action id).line i)} k)
    (n : Nat) (schema : Goal.Schema) :
    let sent := s.after (List.replicate (n + 1) (readiness folder goal.action) ++ [posting folder goal])
    ∃ outcome, collect (connector server) schema
          { Client.ofAction server goal.action with goalId := some id } sent
        = (outcome, sent.after (List.replicate (k + 1) (polling folder goal.action id))) ∧
      (∀ x, outcome ≠ .crash x) ∧ ∀ t, outcome = .ok t ↔
        reported? schema.resultField (s.answer (polling folder goal.action id).line k) = some t := by
  intro sent
  have untouched (i : Nat) : sent.answer (polling folder goal.action id).line i
      = s.answer (polling folder goal.action id).line i :=
    answer_after_of_notMem s (line_polling_notMem folder goal id n) i
  have leads : sent.target? ((Client.ofAction server goal.action).urlOfGoal id)
      = some (folder ++ goalPath goal.action id) := by
    rw [target?_after, urlOfGoal_ofAction]
    exact serves.target?_append (plainPath_goal plain plainId)
  have least : IsLeast {i | ¬ IsRunning (sent.answer (polling folder goal.action id).line i)} k := by
    simpa only [untouched] using firstEnd
  rw [← untouched k]
  exact collect_eq (c := { Client.ofAction server goal.action with goalId := some id }) rfl leads least
    server schema

/-- A dispatch asks for the action up to the first answer that it is up, posts the goal once, and asks
    for the goal up to the first answer that it is at its end, if the server takes it and not
    otherwise. It announces a goal that is taken, and returns what the last answer reports. -/
theorem dispatchAction_http {r : Registry} (announceActive : Bool)
    (known : r.get? goal.action = some schema) (sized : goal.fields.length = schema.fields.length)
    (serves : s.Serves (Text.trimEnd '/' server) folder) (plain : Plain goal.action.toList)
    (up : ∃ n, IsOk (s.answer (readiness folder goal.action).line n))
    (ends : ∀ id, submittedId? (s.answer (posting folder goal).line 0) = some id →
      Plain id.toList ∧ ∃ n, ¬ IsRunning (s.answer (polling folder goal.action id).line n)) :
    let d := dispatchAction (connector server) r announceActive goal s
    ∃ n, IsLeast {k | IsOk (s.answer (readiness folder goal.action).line k)} n ∧
      let sent := List.replicate (n + 1) (readiness folder goal.action) ++ [posting folder goal]
      (submittedId? (s.answer (posting folder goal).line 0) = none →
        d.world.requests = s.requests ++ sent ∧ d.calls = [] ∧ ∃ fault, d.outcome = .error fault) ∧
      ∀ id, submittedId? (s.answer (posting folder goal).line 0) = some id →
        ∃ k, IsLeast {i | ¬ IsRunning (s.answer (polling folder goal.action id).line i)} k ∧
          d.world.requests
            = s.requests ++ (sent ++ List.replicate (k + 1) (polling folder goal.action id)) ∧
          d.calls = (if announceActive then transaction schema.dataItem "ACTIVE" else []) ∧
          (∀ x, d.outcome ≠ .crash x) ∧
          ∀ t, d.outcome = .ok t ↔
            reported? schema.resultField (s.answer (polling folder goal.action id).line k) = some t := by
  intro d
  have dispatched : d = runGoal (connector server) schema announceActive goal s := by
    show dispatchAction _ _ _ _ _ = _
    rw [dispatchAction, known]
    exact if_neg (not_not_intro sized)
  obtain ⟨n, firstUp⟩ := exists_isLeast up
  refine ⟨n, firstUp, ?_⟩
  intro sent
  rcases runGoal_submits (Registry.action_of_get? known) serves plain firstUp announceActive with
    ⟨refused, fault, ran⟩ | ⟨id, taken, ran⟩
  · rw [dispatched, ran]
    refine ⟨fun _ => ⟨requests_after s sent, rfl, fault, rfl⟩, fun id taken => ?_⟩
    rw [refused] at taken
    nomatch taken
  · refine ⟨fun refused => ?_, fun id' taken' => ?_⟩
    · rw [taken] at refused
      nomatch refused
    · obtain rfl : id = id' := Option.some.inj (taken.symm.trans taken')
      obtain ⟨plainId, ended⟩ := ends id taken
      obtain ⟨k, firstEnd⟩ := exists_isLeast ended
      obtain ⟨outcome, collected, returns, reports⟩ :=
        collect_after_submission serves plain plainId firstEnd n schema
      have result : d = ⟨outcome, acceptances announceActive schema.dataItem 1,
          (s.after sent).after (List.replicate (k + 1) (polling folder goal.action id))⟩ := by
        rw [dispatched, ran, collected]
      rw [result]
      refine ⟨k, firstEnd, ?_, ?_, returns, reports⟩
      · rw [requests_after, requests_after, List.append_assoc]
      · cases announceActive <;> rfl

end Dispatch

/-! ## A server that takes one goal -/

/-- A schema without fields. -/
def bareSchema : Goal.Schema := ⟨"urn:m", "load", "Material", [], none⟩

def bareGoal : Goal := ⟨"load", []⟩

def documentOf (members : List (String × Json)) : Response :=
  { body := Utf8.bytesOf (Json.object members).text }

/-- A server that is up at the second request, takes a goal under the name `id`, and has done it at the
    second request for it. -/
def slowServer (id : String) : Network where
  listening := [hostA.address]
  scripts :=
    [ (⟨hostA.address, "GET /actions/load"⟩, [{ status := 503, reason := "Busy" }, {}])
    , (⟨hostA.address, "POST /actions/load/goals"⟩, [documentOf [("id", .string id)]])
    , (⟨hostA.address, "GET /actions/load/goals/" ++ id⟩,
        [ documentOf [("status", .string "active")]
        , documentOf [("status", .string "succeeded"), ("result", .string "done")] ]) ]

theorem serves_slowServer (id : String) :
    (slowServer id).Serves (Text.trimEnd '/' "http://a/") hostA := by
  have trimmed : Text.trimEnd '/' "http://a/" = "http://a" := by decide +kernel
  exact trimmed ▸ serves_hostA List.mem_cons_self

theorem submittedId?_slowServer :
    submittedId? ((slowServer "g1").answer (posting hostA bareGoal).line 0) = some "g1" := by
  decide +kernel

theorem isLeast_up_slowServer :
    IsLeast {k | IsOk ((slowServer "g1").answer (readiness hostA bareGoal.action).line k)} 1 := by
  have late : ¬ IsOk ((slowServer "g1").answer (readiness hostA bareGoal.action).line 0) := by
    decide +kernel
  have up : IsOk ((slowServer "g1").answer (readiness hostA bareGoal.action).line 1) := by decide +kernel
  exact ⟨up, fun k up => Nat.pos_of_ne_zero fun zero => late (zero ▸ up)⟩

theorem isLeast_end_slowServer :
    IsLeast {k | ¬ IsRunning ((slowServer "g1").answer (polling hostA bareGoal.action "g1").line k)} 1 := by
  have running : IsRunning ((slowServer "g1").answer (polling hostA bareGoal.action "g1").line 0) := by
    decide +kernel
  have ended : ¬ IsRunning ((slowServer "g1").answer (polling hostA bareGoal.action "g1").line 1) := by
    decide +kernel
  exact ⟨ended, fun k ended => Nat.pos_of_ne_zero fun zero => ended (zero ▸ running)⟩

theorem dispatchAction_http_slow :
    let d := dispatchAction (connector "http://a/") (.ofSchemas [bareSchema]) true bareGoal
      (slowServer "g1")
    d.world.requests = List.replicate 2 (readiness hostA bareGoal.action) ++ [posting hostA bareGoal]
        ++ List.replicate 2 (polling hostA bareGoal.action "g1") ∧
      d.calls = transaction bareSchema.dataItem "ACTIVE" ∧ d.outcome = .ok "done" := by
  have ends (id : String)
      (same : submittedId? ((slowServer "g1").answer (posting hostA bareGoal).line 0) = some id) :
      Plain id.toList ∧
        ∃ n, ¬ IsRunning ((slowServer "g1").answer (polling hostA bareGoal.action id).line n) := by
    rw [submittedId?_slowServer] at same
    obtain rfl : "g1" = id := Option.some.inj same
    exact ⟨by decide, 1, isLeast_end_slowServer.1⟩
  have known : (Registry.ofSchemas [bareSchema]).get? bareGoal.action = some bareSchema := rfl
  obtain ⟨n, firstUp, -, taken⟩ := dispatchAction_http true known rfl (serves_slowServer "g1")
    (by decide) ⟨1, isLeast_up_slowServer.1⟩ ends
  obtain ⟨k, firstEnd, requests, calls, -, reports⟩ := taken "g1" submittedId?_slowServer
  obtain rfl : n = 1 := firstUp.unique isLeast_up_slowServer
  obtain rfl : k = 1 := firstEnd.unique isLeast_end_slowServer
  have reports' : reported? bareSchema.resultField
      ((slowServer "g1").answer (polling hostA bareGoal.action "g1").line 1) = some "done" := by
    decide +kernel
  have none : (slowServer "g1").requests = [] := rfl
  rw [none, List.nil_append] at requests
  exact ⟨requests, calls, (reports "done").mpr reports'⟩

/-- A goal named like the directory above is asked for there, and not where it is: its characters are
    unreserved, the server answers as any other, and the result that it has is not returned. -/
theorem polling_notMem_of_parent :
    let s := slowServer ".."
    let d := dispatchAction (connector "http://a/") (.ofSchemas [bareSchema]) true bareGoal s
    (∀ c ∈ "..".toList, isUnreserved c = true) ∧ s.Serves (Text.trimEnd '/' "http://a/") hostA ∧
      IsOk (s.answer (readiness hostA bareGoal.action).line 1) ∧
      submittedId? (s.answer (posting hostA bareGoal).line 0) = some ".." ∧
      ¬ IsRunning (s.answer (polling hostA bareGoal.action "..").line 1) ∧
      reported? bareSchema.resultField (s.answer (polling hostA bareGoal.action "..").line 1)
        = some "done" ∧
      polling hostA bareGoal.action ".." ∉ d.world.requests ∧
      ⟨"GET", hostA ++ "/actions/load/", ""⟩ ∈ d.world.requests ∧ d.outcome ≠ .ok "done" := by
  have unreserved : "..".toList.all isUnreserved = true := by decide
  refine ⟨List.all_eq_true.mp unreserved, serves_slowServer "..", ?_⟩
  decide +kernel

end ActionBridge.Gateway
