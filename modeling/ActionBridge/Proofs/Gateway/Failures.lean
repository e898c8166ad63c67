import ActionBridge.Action.Gateway
import ActionBridge.Action.Lifecycle

/-!
# Failures of goals over HTTP

A goal that fails at an action server does so on account of the server: a call fails, an answer cannot
be read, or the goal ends without success (`Fails`). The error names the action of the goal
(`fails_of_runGoal`). A goal that has no end waits for one of the server's answers
(`endless_of_runGoal`).
-/
namespace ActionBridge.Gateway

/-- How a goal of an action fails at a server. -/
inductive Fails (action : String) : DispatchFault → Prop
  | remote (fault : RemoteFault) : Fails action (.remote action fault)
  | rejected {status : Goal.Status} (unsuccessful : status ≠ .succeeded) :
      Fails action (.rejected action status.name)

variable {s : Http.Network} {c : Client} {goal : Goal} {fault : DispatchFault}

/-- The wait for an action goes on behind every error. -/
theorem fst_awaitUp_ne_error (url : String) (polls : Nat) (s : Http.Network) (fault : DispatchFault) :
    (awaitUp url polls s).1 ≠ .error fault := by
  induction polls generalizing s with
  | zero => nofun
  | succ polls ih =>
    rw [awaitUp]
    rcases s.call "GET" url "" with ⟨refused | response, later⟩
    · exact ih later
    · dsimp only
      split
      · nofun
      · exact ih later

/-! ## Calls on the client -/

/-- The wait for an action changes nothing at the client, and does not fail. -/
theorem awaitServer_cases (c : Client) (s : Http.Network) :
    (c.awaitServer s).client = c ∧ ∀ fault, (c.awaitServer s).outcome ≠ .error fault := by
  have unfailing := fst_awaitUp_ne_error c.url (s.patience "GET" c.url) s
  rw [Client.awaitServer]
  generalize awaitUp c.url (s.patience "GET" c.url) s = waited at unfailing ⊢
  exact ⟨rfl, unfailing⟩

theorem action_submit (c : Client) (goal : Goal) (s : Http.Network) :
    (c.submit goal s).client.action = c.action := by
  rw [Client.submit]
  split
  · rfl
  · split
    · rfl
    · split <;> rfl

theorem action_awaitResult (c : Client) (s : Http.Network) :
    (c.awaitResult s).client.action = c.action := by
  rw [Client.awaitResult]
  split
  · rfl
  · dsimp only
    split <;> rfl

theorem fails_of_submit (ended : (c.submit goal s).outcome = .error fault) : Fails c.action fault := by
  rw [Client.submit] at ended
  split at ended
  · cases ended
    exact .remote _
  · split at ended
    · cases ended
      exact .remote _
    · split at ended
      · cases ended
        exact .rejected nofun
      · cases ended

theorem fails_of_awaitResult (ended : (c.awaitResult s).outcome = .error fault) :
    Fails c.action fault := by
  rw [Client.awaitResult] at ended
  split at ended
  · cases ended
    exact .remote _
  · dsimp only at ended
    split at ended
    · cases ended
    · cases ended
      exact .remote _
    · cases ended

theorem fails_of_fetchResult (ended : (c.fetchResult s).outcome = .error fault) :
    Fails c.action fault := by
  rw [Client.fetchResult] at ended
  split at ended
  · cases ended
    exact .remote _
  · cases ended

/-! ## Goals -/

variable {server : String} {schema : Goal.Schema}

theorem fails_of_collect (named : c.action = schema.action)
    (ended : (collect (connector server) schema c s).1 = .error fault) : Fails schema.action fault := by
  unfold collect at ended
  dsimp only [connector] at ended
  split at ended
  · cases ended
  · next e waited =>
    cases ended
    exact named ▸ fails_of_awaitResult waited
  · next status waited =>
    split at ended
    · next unsuccessful =>
      cases ended
      exact .rejected unsuccessful
    · split at ended
      · cases ended
      · next e fetched =>
        cases ended
        have fails := fails_of_fetchResult fetched
        rwa [action_awaitResult, named] at fails
      · next result fetched =>
        rw [Goal.Schema.report] at ended
        split at ended
        · cases ended
        · cases ended
          exact .remote _

/-- A goal fails at the server or not at all, and names its action when it does. -/
theorem fails_of_runGoal {announceActive : Bool}
    (ended : (runGoal (connector server) schema announceActive goal s).outcome = .error fault) :
    Fails schema.action fault := by
  have connected : (connector server).connect schema s = (.ok (.ofAction server schema.action), s) := rfl
  have named : (Client.ofAction server schema.action).action = schema.action := rfl
  unfold runGoal at ended
  rw [connected] at ended
  generalize Client.ofAction server schema.action = c at named ended
  have up : (connector server).awaitServer c s = c.awaitServer s := rfl
  obtain ⟨same, unfailing⟩ := awaitServer_cases c s
  dsimp only at ended
  rw [up] at ended
  generalize c.awaitServer s = waited at same unfailing ended
  obtain ⟨outcome, client, later⟩ := waited
  obtain rfl : client = c := same
  cases outcome with
  | crash x => cases ended
  | error e => exact absurd rfl (unfailing e)
  | ok =>
    dsimp only at ended
    split at ended
    · cases ended
    · next e sent =>
      cases ended
      exact named ▸ fails_of_submit sent
    · exact fails_of_collect ((action_submit _ _ _).trans named) ended

/-! ## Waiting without end -/

variable {x : Crash}

theorem endless_of_awaitUp {url : String} {polls : Nat} (crash : (awaitUp url polls s).1 = .crash x) :
    x = .endless := by
  induction polls generalizing s with
  | zero => exact (Outcome.crash.inj crash).symm
  | succ polls ih =>
    rw [awaitUp] at crash
    split at crash
    · split at crash
      · cases crash
      · exact ih crash
    · exact ih crash

theorem endless_of_awaitEnd {url : String} {polls : Nat} (crash : (awaitEnd url polls s).1 = .crash x) :
    x = .endless := by
  induction polls generalizing s with
  | zero => exact (Outcome.crash.inj crash).symm
  | succ polls ih =>
    rw [awaitEnd] at crash
    dsimp only at crash
    split at crash
    · exact ih crash
    · cases crash
    · cases crash

theorem endless_of_awaitServer (crash : (c.awaitServer s).outcome = .crash x) : x = .endless := by
  have waited : (awaitUp c.url (s.patience "GET" c.url) s).1 = .crash x := crash
  exact endless_of_awaitUp waited

theorem endless_of_awaitResult (crash : (c.awaitResult s).outcome = .crash x) : x = .endless := by
  rw [Client.awaitResult] at crash
  split at crash
  · cases crash
  · dsimp only at crash
    split at crash
    · cases crash
    · cases crash
    · next y later waited =>
      obtain rfl := Outcome.crash.inj crash
      exact endless_of_awaitEnd (congrArg Prod.fst waited)

theorem endless_of_collect (crash : (collect (connector server) schema c s).1 = .crash x) :
    x = .endless := by
  unfold collect at crash
  dsimp only [connector] at crash
  split at crash
  · next y waited =>
    obtain rfl := Outcome.crash.inj crash
    exact endless_of_awaitResult waited
  · cases crash
  · split at crash
    · cases crash
    · rw [Client.fetchResult] at crash
      split at crash
      · next fetched => split at fetched <;> cases fetched
      · cases crash
      · next result fetched =>
        rw [Goal.Schema.report] at crash
        split at crash <;> cases crash

theorem outcome_submit_ne_crash (c : Client) (goal : Goal) (s : Http.Network) (x : Crash) :
    (c.submit goal s).outcome ≠ .crash x := by
  rw [Client.submit]
  split
  · nofun
  · split
    · nofun
    · split <;> nofun

/-- A goal without end waits for an answer that never comes. -/
theorem endless_of_runGoal {announceActive : Bool}
    (crash : (runGoal (connector server) schema announceActive goal s).outcome = .crash x) :
    x = .endless := by
  have connected : (connector server).connect schema s = (.ok (.ofAction server schema.action), s) := rfl
  unfold runGoal at crash
  rw [connected] at crash
  generalize Client.ofAction server schema.action = c at crash
  have up : (connector server).awaitServer c s = c.awaitServer s := rfl
  have sends (c : Client) (s : Http.Network) : (connector server).submit goal c s = c.submit goal s := rfl
  dsimp only at crash
  rw [up] at crash
  split at crash
  · next y waited =>
    obtain rfl := Outcome.crash.inj crash
    exact endless_of_awaitServer waited
  · cases crash
  · rw [sends] at crash
    split at crash
    · next y sent => exact absurd sent (outcome_submit_ne_crash _ _ _ y)
    · cases crash
    · generalize (Client.submit goal (c.awaitServer s).client (c.awaitServer s).world) = sent at crash
      exact endless_of_collect (c := sent.client) (s := sent.world) crash

theorem endless_of_dispatchAction {r : Registry} {announceActive : Bool}
    (crash : (dispatchAction (connector server) r announceActive goal s).outcome = .crash x) :
    x = .endless := by
  rw [dispatchAction] at crash
  split at crash
  · cases crash
  · split at crash
    · cases crash
    · exact endless_of_runGoal crash

end ActionBridge.Gateway
