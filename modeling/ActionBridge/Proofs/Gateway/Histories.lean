import ActionBridge.Proofs.Gateway.Dispatch
import ActionBridge.Proofs.Gateway.Failures

/-!
# Clients under any order of calls

A client remembers of all calls on it the goal taken last and the document of the wait that succeeded
last (`Remembers`), whatever calls come in whatever order. So what a call does can be told from the
history of the calls before it (`perform_after_runs`), and a call that fails is not remembered at all.
-/
namespace ActionBridge

/-- The call comes to an end. -/
def Outcome.returns {ε α : Type} : Outcome ε α → Bool
  | .crash _ => false
  | _ => true

namespace Gateway
open Http

/-! ## Calls and their histories -/

/-- What can be called on a client. -/
inductive Op where
  | awaitServer
  | submit (goal : Goal)
  | awaitResult
  | fetchResult
  deriving Repr, DecidableEq

/-- What a call gives if it succeeds. -/
inductive Answer where
  | done
  | status (status : Goal.Status)
  | result (result : Goal.Result)
  deriving Repr, DecidableEq

/-- A call as its caller and the server see it. -/
structure Event where
  op : Op
  /-- how many times the call tells that the goal is accepted -/
  accepted : Nat
  outcome : Outcome DispatchFault Answer
  requests : List Request
  responses : List Response

/-- A call with the client and the server afterwards. -/
structure Performed where
  event : Event
  client : Client
  server : Network

/-- The call that took the server from `s` to `w`. -/
def Event.between (op : Op) (accepted : Nat) (outcome : Outcome DispatchFault Answer) (s w : Network) :
    Event :=
  let requests := w.requests.drop s.requests.length
  ⟨op, accepted, outcome, requests, s.answersTo requests⟩

def Op.perform (c : Client) (s : Network) : Op → Performed
  | .awaitServer =>
    let d := c.awaitServer s
    ⟨.between .awaitServer 0 (d.outcome.map fun _ => .done) s d.world, d.client, d.world⟩
  | .submit goal =>
    let d := c.submit goal s
    ⟨.between (.submit goal) d.accepted (d.outcome.map fun _ => .done) s d.world, d.client, d.world⟩
  | .awaitResult =>
    let d := c.awaitResult s
    ⟨.between .awaitResult 0 (d.outcome.map .status) s d.world, d.client, d.world⟩
  | .fetchResult =>
    let d := c.fetchResult s
    ⟨.between .fetchResult 0 (d.outcome.map .result) s d.world, d.client, d.world⟩

/-- Calls one after the other, each of which comes to an end. -/
inductive Runs (c₀ : Client) (s₀ : Network) : List Event → Client → Network → Prop
  | nil : Runs c₀ s₀ [] c₀ s₀
  | snoc {history : List Event} {c : Client} {s : Network} (ran : Runs c₀ s₀ history c s) (op : Op)
      (returns : (op.perform c s).event.outcome.returns) :
      Runs c₀ s₀ (history ++ [(op.perform c s).event]) (op.perform c s).client (op.perform c s).server

theorem Event.between_after (op : Op) (accepted : Nat) (outcome : Outcome DispatchFault Answer)
    (s : Network) (requests : List Request) : Event.between op accepted outcome s (s.after requests) =
      ⟨op, accepted, outcome, requests, s.answersTo requests⟩ := by
  simp [Event.between, requests_after]

theorem Event.between_self (op : Op) (accepted : Nat) (outcome : Outcome DispatchFault Answer)
    (s : Network) : Event.between op accepted outcome s s = ⟨op, accepted, outcome, [], []⟩ :=
  Event.between_after op accepted outcome s []

/-! ## Waiting -/

variable {s : Network} {url : String} {target : Target}

/-- The requests of a wait: for the URL over and over, as far as it leads to the server. -/
def Polls (s : Network) (url : String) (requests : List Request) : Prop :=
  match s.target? url with
  | some target => ∃ n, requests = List.replicate (n + 1) ⟨"GET", target, ""⟩
  | none => requests = []

theorem polls_of_target? (leads : s.target? url = some target) (n : Nat) :
    Polls s url (List.replicate (n + 1) ⟨"GET", target, ""⟩) := by
  simp only [Polls, leads]
  exact ⟨n, rfl⟩

theorem polls_nil (astray : s.target? url = none) : Polls s url [] := by
  simp only [Polls, astray]

/-- One question for the action ends the wait, or the rest of the wait comes behind it. -/
theorem awaitUp_step (leads : s.target? url = some target) (polls : Nat) :
    awaitUp url (polls + 1) s = (.ok (), s.after [⟨"GET", target, ""⟩]) ∨
      awaitUp url (polls + 1) s = awaitUp url polls (s.after [⟨"GET", target, ""⟩]) := by
  obtain ⟨shown, calls⟩ := call_of_target? leads
  rw [awaitUp, calls]
  rcases (s.answer (Request.line ⟨"GET", target, ""⟩) 0).accepted shown with fault | heard
  · exact .inr rfl
  · by_cases up : heard.status = 200
    · exact .inl (if_pos up)
    · exact .inr (if_neg up)

theorem awaitUp_after (leads : s.target? url = some target) (polls : Nat) :
    ∃ n, (awaitUp url (polls + 1) s).2 = s.after (List.replicate (n + 1) ⟨"GET", target, ""⟩) := by
  induction polls generalizing s with
  | zero =>
    refine ⟨0, ?_⟩
    rcases awaitUp_step leads 0 with up | again
    · rw [up]
      rfl
    · rw [again]
      rfl
  | succ polls ih =>
    rcases awaitUp_step leads (polls + 1) with up | again
    · refine ⟨0, ?_⟩
      rw [up]
      rfl
    · obtain ⟨n, later⟩ := ih ((target?_after s _ url).trans leads)
      refine ⟨n + 1, ?_⟩
      rw [again, later]
      rfl

theorem awaitUp_astray (astray : s.target? url = none) (polls : Nat) : (awaitUp url polls s).2 = s := by
  obtain ⟨fault, calls⟩ := call_of_target?_eq_none astray
  induction polls with
  | zero => rfl
  | succ polls ih => rw [awaitUp, calls, ih]

/-- The wait for an action asks for the action only. -/
theorem awaitUp_polls (url : String) (s : Network) : ∃ requests,
    (awaitUp url (s.patience "GET" url) s).2 = s.after requests ∧ Polls s url requests := by
  obtain ⟨polls, enough⟩ := Nat.exists_eq_add_one.mpr (patience_pos s "GET" url)
  rw [enough]
  cases leads : s.target? url with
  | none => exact ⟨[], awaitUp_astray leads _, polls_nil leads⟩
  | some target =>
    obtain ⟨n, after⟩ := awaitUp_after leads polls
    exact ⟨_, after, polls_of_target? leads n⟩

/-- The last one of the responses. -/
def Last (responses : List Response) (p : Response → Prop) : Prop :=
  ∃ last, responses.getLast? = some last ∧ p last

theorem last_cons {first : Response} {responses : List Response} {p : Response → Prop}
    (last : Last responses p) : Last (first :: responses) p := by
  obtain ⟨last, found, holds⟩ := last
  refine ⟨last, ?_, holds⟩
  rw [List.getLast?_cons, found, Option.getD_some]

theorem last_singleton {r : Request} {p : Response → Prop} (holds : p (s.answer r.line 0)) :
    Last (s.answersTo [r]) p :=
  ⟨(s.respond r).1, rfl, fst_respond s r ▸ holds⟩

/-- One question for the goal ends the wait, or the rest of the wait comes behind it. -/
theorem awaitEnd_step (leads : s.target? url = some target) (polls : Nat) :
    let poll : Request := ⟨"GET", target, ""⟩
    (∃ state, reading? (s.answer poll.line 0) = some state ∧
        awaitEnd url (polls + 1) s = (.ok state, s.after [poll])) ∨
      (∃ fault, awaitEnd url (polls + 1) s = (.error fault, s.after [poll])) ∨
      awaitEnd url (polls + 1) s = awaitEnd url polls (s.after [poll]) := by
  intro poll
  obtain ⟨shown, calls⟩ := call_of_target? leads
  simp only [awaitEnd, calls]
  rcases pollOf_cases (s.answer poll.line 0) with ⟨status, document, reads, polled⟩ | ⟨-, fails⟩
  · rw [polled]
    by_cases final : status.isFinal
    · rw [if_pos final]
      exact .inl ⟨_, reads, rfl⟩
    · rw [if_neg final]
      exact .inr (.inr rfl)
  · obtain ⟨fault, failed⟩ := fails shown
    rw [failed]
    exact .inr (.inl ⟨fault, rfl⟩)

theorem awaitEnd_after (leads : s.target? url = some target) (polls : Nat) :
    ∃ outcome n, awaitEnd url (polls + 1) s =
        (outcome, s.after (List.replicate (n + 1) ⟨"GET", target, ""⟩)) ∧
      ∀ state, outcome = .ok state →
        Last (s.answersTo (List.replicate (n + 1) ⟨"GET", target, ""⟩)) (reading? · = some state) := by
  induction polls generalizing s with
  | zero =>
    rcases awaitEnd_step leads 0 with ⟨state, reads, ended⟩ | ⟨fault, failed⟩ | again
    · refine ⟨_, 0, ended, ?_⟩
      rintro state₁ ⟨⟩
      exact last_singleton reads
    · exact ⟨_, 0, failed, nofun⟩
    · exact ⟨_, 0, again, nofun⟩
  | succ polls ih =>
    rcases awaitEnd_step leads (polls + 1) with ⟨state, reads, ended⟩ | ⟨fault, failed⟩ | again
    · refine ⟨_, 0, ended, ?_⟩
      rintro state₁ ⟨⟩
      exact last_singleton reads
    · exact ⟨_, 0, failed, nofun⟩
    · obtain ⟨outcome, n, later, ending⟩ := ih ((target?_after s _ url).trans leads)
      exact ⟨outcome, n + 1, again.trans later, fun state ended => last_cons (ending state ended)⟩

theorem awaitEnd_astray (astray : s.target? url = none) (polls : Nat) :
    ∃ fault, awaitEnd url (polls + 1) s = (.error fault, s) := by
  obtain ⟨fault, calls⟩ := call_of_target?_eq_none astray
  exact ⟨.poll fault, by simp only [awaitEnd, calls, pollOf]⟩

/-- The wait for a goal asks for the goal only, and the last answer says how the goal ended. -/
theorem awaitEnd_polls (url : String) (s : Network) : ∃ outcome requests,
    awaitEnd url (s.patience "GET" url) s = (outcome, s.after requests) ∧ Polls s url requests ∧
      ∀ state, outcome = .ok state → Last (s.answersTo requests) (reading? · = some state) := by
  obtain ⟨polls, enough⟩ := Nat.exists_eq_add_one.mpr (patience_pos s "GET" url)
  rw [enough]
  cases leads : s.target? url with
  | none =>
    obtain ⟨fault, failed⟩ := awaitEnd_astray leads polls
    exact ⟨_, [], failed, polls_nil leads, nofun⟩
  | some target =>
    obtain ⟨outcome, n, ended, ending⟩ := awaitEnd_after leads polls
    exact ⟨outcome, _, ended, polls_of_target? leads n, ending⟩

/-! ## What a call does -/

/-- The request of a submission, as far as the URL leads to the server. -/
def posts (s : Network) (url : String) (goal : Goal) : List Request :=
  (s.target? url).toList.map (⟨"POST", ·, submission goal⟩)

/-- What a call does, with the client afterwards. -/
inductive Acts (c : Client) (s : Network) : Event → Client → Prop
  | waited {outcome : Outcome DispatchFault Answer} {requests : List Request}
      (polls : Polls s c.url requests) (unfailing : ∀ fault, outcome ≠ .error fault) :
      Acts c s ⟨.awaitServer, 0, outcome, requests, s.answersTo requests⟩ c
  | refused (goal : Goal) (fault : DispatchFault) :
      Acts c s ⟨.submit goal, 0, .error fault, posts s c.goalsUrl goal,
        s.answersTo (posts s c.goalsUrl goal)⟩ c
  | taken {goal : Goal} {id : String}
      (named : Last (s.answersTo (posts s c.goalsUrl goal)) (submittedId? · = some id)) :
      Acts c s ⟨.submit goal, 1, .ok .done, posts s c.goalsUrl goal,
        s.answersTo (posts s c.goalsUrl goal)⟩ { c with goalId := some id }
  | goalless (absent : c.goalId = none) :
      Acts c s ⟨.awaitResult, 0, .error (.remote c.action .noGoal), [], []⟩ c
  | lost {id : String} {requests : List Request} (submitted : c.goalId = some id)
      (polls : Polls s (c.urlOfGoal id) requests) {outcome : Outcome DispatchFault Answer}
      (unsuccessful : ∀ answer, outcome ≠ .ok answer) :
      Acts c s ⟨.awaitResult, 0, outcome, requests, s.answersTo requests⟩ c
  | ended {id : String} {requests : List Request} {status : Goal.Status} {document : GoalState}
      (submitted : c.goalId = some id) (polls : Polls s (c.urlOfGoal id) requests)
      (reads : Last (s.answersTo requests) (reading? · = some (status, document))) :
      Acts c s ⟨.awaitResult, 0, .ok (.status status), requests, s.answersTo requests⟩
        { c with finished := some document }
  | unfinished (absent : c.finished = none) :
      Acts c s ⟨.fetchResult, 0, .error (.remote c.action .notFinished), [], []⟩ c
  | fetched {document : GoalState} (finished : c.finished = some document) :
      Acts c s ⟨.fetchResult, 0, .ok (.result (.ofJson document.result)), [], []⟩ c

theorem performed_awaitServer (c : Client) (s : Network) :
    let p := Op.awaitServer.perform c s
    Acts c s p.event p.client ∧ p.server = s.after p.event.requests := by
  obtain ⟨requests, after, polls⟩ := awaitUp_polls c.url s
  have unfailing := fst_awaitUp_ne_error c.url (s.patience "GET" c.url) s
  cases waited : awaitUp c.url (s.patience "GET" c.url) s with | mk outcome w =>
  rw [waited] at after unfailing
  obtain rfl : w = s.after requests := after
  simp only [Op.perform, Client.awaitServer, waited, Event.between_after]
  refine ⟨.waited polls ?_, trivial⟩
  intro fault failed
  cases outcome with
  | error fault => exact unfailing fault rfl
  | ok up => cases failed
  | crash x => cases failed

theorem performed_submit (goal : Goal) (c : Client) (s : Network) :
    let p := (Op.submit goal).perform c s
    Acts c s p.event p.client ∧ p.server = s.after p.event.requests := by
  cases leads : s.target? c.goalsUrl with
  | none =>
    obtain ⟨fault, calls⟩ := call_of_target?_eq_none leads
    have silent : posts s c.goalsUrl goal = [] := by rw [posts, leads]; rfl
    have refused := Acts.refused (c := c) (s := s) goal (c.error (.submit fault))
    rw [silent] at refused
    simp only [Op.perform, Client.submit, calls, Event.between_self]
    exact ⟨refused, rfl⟩
  | some target =>
    have once : posts s c.goalsUrl goal = [⟨"POST", target, submission goal⟩] := by rw [posts, leads]; rfl
    rcases submit_cases c goal leads with ⟨-, fault, refused⟩ | ⟨id, named, taken⟩
    · simp only [Op.perform, refused, Event.between_after, ← once]
      exact ⟨.refused goal fault, trivial⟩
    · simp only [Op.perform, taken, Event.between_after, ← once]
      refine ⟨.taken ?_, trivial⟩
      rw [once]
      exact last_singleton named

theorem performed_awaitResult (c : Client) (s : Network) :
    let p := Op.awaitResult.perform c s
    Acts c s p.event p.client ∧ p.server = s.after p.event.requests := by
  cases submitted : c.goalId with
  | none =>
    simp only [Op.perform, Client.awaitResult, submitted, Event.between_self]
    exact ⟨.goalless submitted, rfl⟩
  | some id =>
    obtain ⟨outcome, requests, waited, polls, ending⟩ := awaitEnd_polls (c.urlOfGoal id) s
    cases outcome with
    | crash x =>
      have result : c.awaitResult s = ⟨.crash x, c, s.after requests⟩ := by
        simp only [Client.awaitResult, submitted, waited]
      simp only [Op.perform, result, Event.between_after]
      refine ⟨.lost submitted polls ?_, trivial⟩
      intro answer succeeded
      cases succeeded
    | error fault =>
      have result : c.awaitResult s = ⟨.error (c.error fault), c, s.after requests⟩ := by
        simp only [Client.awaitResult, submitted, waited]
      simp only [Op.perform, result, Event.between_after]
      refine ⟨.lost submitted polls ?_, trivial⟩
      intro answer succeeded
      cases succeeded
    | ok state =>
      have result : c.awaitResult s =
          ⟨.ok state.1, { c with finished := some state.2 }, s.after requests⟩ := by
        simp only [Client.awaitResult, submitted, waited]
      simp only [Op.perform, result, Event.between_after]
      exact ⟨.ended submitted polls (ending state rfl), trivial⟩

theorem performed_fetchResult (c : Client) (s : Network) :
    let p := Op.fetchResult.perform c s
    Acts c s p.event p.client ∧ p.server = s.after p.event.requests := by
  cases finished : c.finished with
  | none =>
    simp only [Op.perform, Client.fetchResult, finished, Event.between_self]
    exact ⟨.unfinished finished, rfl⟩
  | some document =>
    simp only [Op.perform, Client.fetchResult, finished, Event.between_self]
    exact ⟨.fetched finished, rfl⟩

theorem performed (op : Op) (c : Client) (s : Network) :
    let p := op.perform c s
    Acts c s p.event p.client ∧ p.server = s.after p.event.requests := by
  cases op with
  | awaitServer => exact performed_awaitServer c s
  | submit goal => exact performed_submit goal c s
  | awaitResult => exact performed_awaitResult c s
  | fetchResult => exact performed_fetchResult c s

/-! ## What a client remembers -/

/-- The submission of a goal succeeds. -/
def Event.takes (e : Event) : Bool :=
  match e.op, e.outcome with
  | .submit _, .ok _ => true
  | _, _ => false

/-- The wait for a goal succeeds. -/
def Event.finishes (e : Event) : Bool :=
  match e.op, e.outcome with
  | .awaitResult, .ok _ => true
  | _, _ => false

/-- The goal is taken under the name `id`. -/
def Event.Names (e : Event) (id : String) : Prop :=
  Last e.responses (submittedId? · = some id)

/-- The wait is ended by the document. -/
def Event.Shows (e : Event) (document : GoalState) : Prop :=
  ∃ status, e.outcome = .ok (.status status) ∧
    Last e.responses (reading? · = some (status, document))

/-- The last event of some sort. -/
def latest (p : Event → Bool) (history : List Event) : Option Event := history.reverse.find? p

variable {p : Event → Bool} {history : List Event} {e : Event}

theorem latest_concat_of_pos (holds : p e = true) : latest p (history ++ [e]) = some e := by
  simp [latest, holds]

theorem latest_concat_of_neg (fails : p e = false) : latest p (history ++ [e]) = latest p history := by
  simp [latest, fails]

theorem latest_eq_none_iff : latest p history = none ↔ ∀ e ∈ history, p e = false := by
  simp [latest]

variable {c₀ c c₁ : Client} {s₀ : Network}

/-- What a client and its server are like after the calls of a history. -/
structure Remembers (c₀ : Client) (s₀ : Network) (history : List Event) (c : Client) (s : Network) :
    Prop where
  action : c.action = c₀.action
  url : c.url = c₀.url
  server : s = s₀.after (history.flatMap Event.requests)
  goalId : Option.Rel Event.Names (latest Event.takes history) c.goalId
  finished : Option.Rel Event.Shows (latest Event.finishes history) c.finished

theorem Acts.action_eq (acts : Acts c s e c₁) : c₁.action = c.action := by
  cases acts <;> rfl

theorem Acts.url_eq (acts : Acts c s e c₁) : c₁.url = c.url := by
  cases acts <;> rfl

theorem Acts.goalId (acts : Acts c s e c₁)
    (known : Option.Rel Event.Names (latest Event.takes history) c.goalId) :
    Option.Rel Event.Names (latest Event.takes (history ++ [e])) c₁.goalId := by
  cases acts with
  | taken named =>
    rw [latest_concat_of_pos rfl]
    exact .some named
  | _ =>
    rw [latest_concat_of_neg rfl]
    exact known

theorem Acts.finished (acts : Acts c s e c₁)
    (known : Option.Rel Event.Shows (latest Event.finishes history) c.finished) :
    Option.Rel Event.Shows (latest Event.finishes (history ++ [e])) c₁.finished := by
  cases acts with
  | ended submitted polls reads =>
    rw [latest_concat_of_pos rfl]
    exact .some ⟨_, rfl, reads⟩
  | @lost id requests submitted polls outcome unsuccessful =>
    rw [latest_concat_of_neg]
    · exact known
    · cases outcome with
      | ok answer => exact absurd rfl (unsuccessful answer)
      | error fault => rfl
      | crash x => rfl
  | _ =>
    rw [latest_concat_of_neg rfl]
    exact known

theorem Remembers.perform (remembers : Remembers c₀ s₀ history c s) (op : Op) :
    let p := op.perform c s
    Remembers c₀ s₀ (history ++ [p.event]) p.client p.server := by
  obtain ⟨acts, served⟩ := performed op c s
  refine ⟨acts.action_eq.trans remembers.action, acts.url_eq.trans remembers.url, ?_,
    acts.goalId remembers.goalId, acts.finished remembers.finished⟩
  rw [served, remembers.server, ← after_append, List.flatMap_append, List.flatMap_singleton]

theorem Runs.remembers {server action : String} (ran : Runs (.ofAction server action) s₀ history c s) :
    Remembers (.ofAction server action) s₀ history c s := by
  induction ran with
  | nil => exact ⟨rfl, rfl, rfl, .none, .none⟩
  | snoc ran op returns ih => exact ih.perform op

/-! ## What the next call does -/

/-- Where a goal of an action is. -/
def goalUrl (server action id : String) : String :=
  Text.trimEnd '/' server ++ "/actions/" ++ action ++ "/goals/" ++ id

/-- What a call does by the history of the calls before it. -/
structure Behaves (server action : String) (s₀ : Network) (before : List Event) (e : Event) : Prop where
  /-- the acceptance is told of once if the submission succeeds, and not at all if it fails -/
  accepts : ∀ goal, e.op = .submit goal →
    (e.outcome = .ok .done ∧ e.accepted = 1) ∨ (∃ fault, e.outcome = .error fault) ∧ e.accepted = 0
  goalless : e.op = .awaitResult → (∀ e₀ ∈ before, e₀.takes = false) →
    e.outcome = .error (.remote action .noGoal) ∧ e.requests = []
  polls : e.op = .awaitResult → ∀ e₀, latest Event.takes before = some e₀ →
    ∃ id, e₀.Names id ∧ Polls s₀ (goalUrl server action id) e.requests
  fetches : e.op = .fetchResult →
    ((∃ result, e.outcome = .ok (.result result)) ↔ ∃ e₀ ∈ before, e₀.finishes = true)
  results : e.op = .fetchResult → ∀ e₀, latest Event.finishes before = some e₀ →
    ∃ document, e₀.Shows document ∧ e.outcome = .ok (.result (.ofJson document.result))

theorem op_perform (op : Op) (c : Client) (s : Network) : (op.perform c s).event.op = op := by
  cases op <;> rfl

/-- A call that fails is not remembered. -/
theorem Acts.client_eq_of_error (acts : Acts c s e c₁) {fault : DispatchFault}
    (failed : e.outcome = .error fault) : c₁ = c := by
  cases acts with
  | taken named => cases failed
  | ended submitted polls reads => cases failed
  | _ => rfl

theorem polls_after_iff (earlier requests : List Request) :
    Polls (s.after earlier) url requests ↔ Polls s url requests := by
  rw [Polls, Polls, target?_after]

theorem Acts.accepts (acts : Acts c s e c₁) {goal : Goal} (called : e.op = .submit goal) :
    (e.outcome = .ok .done ∧ e.accepted = 1) ∨ (∃ fault, e.outcome = .error fault) ∧ e.accepted = 0 := by
  cases acts with
  | refused goal₁ fault => exact .inr ⟨⟨fault, rfl⟩, rfl⟩
  | taken named => exact .inl ⟨rfl, rfl⟩
  | _ => cases called

theorem eq_none_of_rel {α β : Type} {r : α → β → Prop} {o : Option α} {b : Option β}
    (related : Option.Rel r o b) (absent : o = none) : b = none := by
  cases related with
  | some holds => cases absent
  | none => rfl

theorem exists_of_rel {α β : Type} {r : α → β → Prop} {o : Option α} {b : Option β} {a : α}
    (related : Option.Rel r o b) (present : o = some a) : ∃ y, b = some y ∧ r a y := by
  cases related with
  | some holds =>
    cases present
    exact ⟨_, rfl, holds⟩
  | none => cases present

section Next

variable {server action : String} (remembers : Remembers (.ofAction server action) s₀ history c s)
include remembers

theorem Remembers.polls_iff {id : String} {requests : List Request} :
    Polls s (c.urlOfGoal id) requests ↔ Polls s₀ (goalUrl server action id) requests := by
  have same : c.urlOfGoal id = goalUrl server action id := by
    rw [Client.urlOfGoal, remembers.url, Client.ofAction, goalUrl]
  rw [same, remembers.server, polls_after_iff]

theorem Remembers.goalless (acts : Acts c s e c₁) (called : e.op = .awaitResult)
    (untaken : ∀ e₀ ∈ history, e₀.takes = false) :
    e.outcome = .error (.remote action .noGoal) ∧ e.requests = [] := by
  have unknown := eq_none_of_rel remembers.goalId (latest_eq_none_iff.mpr untaken)
  have named : c.action = action := remembers.action
  cases acts with
  | goalless absent => exact ⟨by rw [named], rfl⟩
  | lost submitted => exact nomatch unknown.symm.trans submitted
  | ended submitted => exact nomatch unknown.symm.trans submitted
  | _ => cases called

theorem Remembers.polls (acts : Acts c s e c₁) (called : e.op = .awaitResult) {e₀ : Event}
    (last : latest Event.takes history = some e₀) :
    ∃ id, e₀.Names id ∧ Polls s₀ (goalUrl server action id) e.requests := by
  obtain ⟨id, known, names⟩ := exists_of_rel remembers.goalId last
  refine ⟨id, names, ?_⟩
  rw [← remembers.polls_iff]
  cases acts with
  | goalless absent =>
    rw [known] at absent
    cases absent
  | lost submitted polls =>
    rw [known] at submitted
    cases submitted
    exact polls
  | ended submitted polls =>
    rw [known] at submitted
    cases submitted
    exact polls
  | _ => cases called

/-- The result is there exactly if a document is remembered. -/
theorem Remembers.fetches (acts : Acts c s e c₁) (called : e.op = .fetchResult) :
    (latest Event.finishes history = none ∧ ∀ result, e.outcome ≠ .ok (.result result)) ∨
      ∃ e₀ document, latest Event.finishes history = some e₀ ∧ e₀.Shows document ∧
        e.outcome = .ok (.result (.ofJson document.result)) := by
  cases last : latest Event.finishes history with
  | none =>
    have unknown := eq_none_of_rel remembers.finished last
    refine .inl ⟨rfl, ?_⟩
    intro result made
    cases acts with
    | unfinished absent => cases made
    | fetched finished =>
      rw [unknown] at finished
      cases finished
    | _ => cases called
  | some e₀ =>
    obtain ⟨document, known, shown⟩ := exists_of_rel remembers.finished last
    refine .inr ⟨e₀, document, rfl, shown, ?_⟩
    cases acts with
    | unfinished absent =>
      rw [known] at absent
      cases absent
    | fetched finished =>
      rw [known] at finished
      cases finished
      rfl
    | _ => cases called

end Next

theorem Remembers.behaves {server action : String}
    (remembers : Remembers (.ofAction server action) s₀ history c s) (acts : Acts c s e c₁) :
    Behaves server action s₀ history e where
  accepts goal called := acts.accepts called
  goalless := remembers.goalless acts
  polls called e₀ last := remembers.polls acts called last
  fetches called := by
    have some_iff : (∃ e₀ ∈ history, e₀.finishes = true) ↔ latest Event.finishes history ≠ none := by
      simp [latest_eq_none_iff]
    rw [some_iff]
    rcases remembers.fetches acts called with ⟨absent, fails⟩ | ⟨e₀, document, last, -, fetched⟩
    · simp [absent, fails]
    · simp [last, fetched]
  results called e₀ last := by
    rcases remembers.fetches acts called with ⟨absent, -⟩ | ⟨e₁, document, last₁, shows_it, fetched⟩
    · exact nomatch last.symm.trans absent
    · obtain rfl := Option.some.inj (last.symm.trans last₁)
      exact ⟨document, shows_it, fetched⟩

/-- Whatever calls a client has behind it, their history says what the next call does. If that one
    fails, later calls are those of a client on which it was not made, at a server that got its
    requests. -/
theorem perform_after_runs {server action : String} {before : List Event}
    (ran : Runs (.ofAction server action) s₀ before c s) (op : Op) :
    let next := op.perform c s
    next.event.op = op ∧ Behaves server action s₀ before next.event ∧
      ∀ fault, next.event.outcome = .error fault → ∀ later c₁ s₁,
        Runs next.client next.server later c₁ s₁ ↔ Runs c (s.after next.event.requests) later c₁ s₁ := by
  obtain ⟨acts, served⟩ := performed op c s
  refine ⟨op_perform op c s, ran.remembers.behaves acts, ?_⟩
  intro fault failed later c₁ s₁
  rw [acts.client_eq_of_error failed, served]

/-- A wait and a fetch that come too early change nothing. -/
theorem perform_after_runs_load : ∃ before c s,
    Runs (.ofAction "http://a/" "load") (slowServer "g1") before c s ∧
      before.map Event.op = [.awaitResult, .submit bareGoal, .fetchResult, .awaitResult] ∧
      (∃ e₀ ∈ before, e₀.finishes = true) ∧
      (Op.fetchResult.perform c s).event.outcome = .ok (.result ⟨[("result", "done")]⟩) := by
  have start : Runs (.ofAction "http://a/" "load") (slowServer "g1") [] (.ofAction "http://a/" "load")
      (slowServer "g1") := .nil
  have early := start.snoc .awaitResult (by decide +kernel)
  have sent := early.snoc (.submit bareGoal) (by decide +kernel)
  have hasty := sent.snoc .fetchResult (by decide +kernel)
  have ran := hasty.snoc .awaitResult (by decide +kernel)
  obtain ⟨called, behaves, -⟩ := perform_after_runs ran .fetchResult
  refine ⟨_, _, _, ran, ?_, ?_, ?_⟩
  · simp [op_perform]
  · refine (behaves.fetches called).mp ⟨⟨[("result", "done")]⟩, ?_⟩
    decide +kernel
  · decide +kernel

end Gateway
end ActionBridge
