import ActionBridge.Command.Report
import ActionBridge.Proofs.Bridge.Following
import ActionBridge.Proofs.Bridge.Reasons
import ActionBridge.Proofs.Computer
import ActionBridge.Proofs.Gateway.Failures

/-!
# Exit codes

The exit code of a command tells how far it came. A configuration that is refused ends it before anything
is asked for (`Config.Refused`). A run with any other ends because the bridge cannot be used
(`Config.Unusable`), because the agent is lost (`Config.Lost`) or with the stream of the agent
(`Config.Followed`), unless a call crashes (`Command.execute_code`). An agent is lost as well when it
answers a request in a way that the bridge cannot read (`Command.execute_unreadable`).
-/
namespace ActionBridge

/-! ## Configurations -/

namespace Config

section Loading

variable {path : String} {content : Except ReadFault (List UInt8)} {s : Sections} {c : Config}

/-- A content has these sections, and they make this configuration. -/
structure Loads (content : Except ReadFault (List UInt8)) (s : Sections) (c : Config) : Prop where
  read : ∃ bytes text, content = .ok bytes ∧ Utf8.decode bytes = .ok text ∧ sections text = .ok s
  made : ofSections s = .ok c

theorem load_eq_ok : load path content = .ok c ↔ ∃ s, Loads content s c := by
  constructor
  · intro loaded
    cases content with
    | error fault => cases loaded
    | ok bytes =>
      cases decoded : Utf8.decode bytes with
      | error fault => simp [load, decoded] at loaded
      | ok text =>
        simp only [load, decoded, parse, mapError_eq_ok] at loaded
        obtain ⟨s, read, made⟩ := bind_eq_ok.mp loaded
        exact ⟨s, ⟨bytes, text, rfl, decoded, read⟩, made⟩
  · rintro ⟨s, ⟨bytes, text, rfl, decoded, read⟩, made⟩
    simp only [load, decoded, parse, mapError_eq_ok]
    exact bind_eq_ok.mpr ⟨s, read, made⟩

theorem exists_of_load_error {e : BridgeFault} (refused : load path content = .error e) :
    ∃ file fault, e = .invalidConfig file fault := by
  cases content with
  | error fault => exact ⟨_, _, (Except.error.inj refused).symm⟩
  | ok bytes =>
    cases decoded : Utf8.decode bytes with
    | error fault =>
      simp only [load, decoded] at refused
      exact ⟨_, _, (Except.error.inj refused).symm⟩
    | ok text =>
      simp only [load, decoded, parse] at refused
      cases settled : (sections text).bind ofSections with
      | ok c =>
        rw [settled] at refused
        cases refused
      | error fault =>
        rw [settled] at refused
        exact ⟨_, _, (Except.error.inj refused).symm⟩

/-- A configuration has no action server if none is written, or nothing of it is left. -/
theorem server_eq_none_iff (made : ofSections s = .ok c) :
    c.dispatch.server = none ↔
      ∀ url ∈ s.dispatch.bind (·.server), Text.trimEnd '/' (Text.trim url) = "" := by
  simp only [ofSections, dispatchOf, bind_eq_ok, pure_eq_ok] at made
  obtain ⟨_, -, _, -, _, -, _, ⟨_, -, server, kept, rfl⟩, _, -, rfl⟩ := made
  dsimp only
  cases written : s.dispatch.bind (·.server) with
  | none =>
    rw [written] at kept
    cases kept
    simp
  | some url =>
    rw [written, serverOf] at kept
    by_cases empty : tidyUrl url = ""
    · simp only [Option.bind_some, Text.nonEmpty?, empty, beq_self_eq_true, if_true] at kept
      cases kept
      simpa [tidyUrl] using empty
    · simp only [Option.bind_some, Text.nonEmpty?, beq_iff_eq, empty, if_false] at kept
      split at kept <;> cases kept
      simpa [tidyUrl] using empty

/-- The configuration ends a command before anything is asked for: it does not load, or it has no action
    server and the actions are not simulated. -/
inductive Refused (path : String) (content : Except ReadFault (List UInt8)) (simulate : Bool) : Prop
  | unloaded {e : BridgeFault} (failed : load path content = .error e)
  | serverless {s : Sections} {c : Config} (live : simulate = false) (loads : Loads content s c)
      (absent : ∀ url ∈ s.dispatch.bind (·.server), Text.trimEnd '/' (Text.trim url) = "")

end Loading

/-- What the actions of a run are connected to: an action server, and a simulation exactly if one is
    asked for. -/
inductive Connects (c : Config) : (simulate : Bool) → Dispatcher Http.Network → Prop
  | simulated : Connects c true (dispatchAction (Simulation.connector c.dispatch.simulatedResult)
      c.actions c.dispatch.announceActive)
  | live {server : String} (configured : c.dispatch.server = some server) :
      Connects c false (dispatchAction (Gateway.connector server) c.actions c.dispatch.announceActive)

section Wiring

variable {c : Config} {simulate : Bool}

theorem dispatcher_of_connects {d : Dispatcher Http.Network} (connects : c.Connects simulate d) :
    c.dispatcher simulate = .ok d := by
  cases connects with
  | simulated => rfl
  | live configured => simp [dispatcher, configured]

theorem exists_connects (served : simulate = false → c.dispatch.server ≠ none) :
    ∃ d, c.Connects simulate d := by
  cases simulate with
  | true => exact ⟨_, .simulated⟩
  | false =>
    obtain ⟨server, configured⟩ := Option.ne_none_iff_exists'.mp (served rfl)
    exact ⟨_, .live configured⟩

end Wiring

end Config

/-! ## Requests -/

/-- The text of a response cannot be had: its body is too long, or breaks off. -/
def Http.Response.Unreadable (r : Http.Response) : Prop := textLimit < r.body.length ∨ r.broken ≠ none

theorem Http.Response.text_of_unreadable {r : Http.Response} (unreadable : r.Unreadable) :
    ∃ reason, r.text = .error reason := by
  rw [text]
  split
  · exact ⟨_, rfl⟩
  · next short =>
    obtain ⟨reason, broken⟩ := Option.ne_none_iff_exists'.mp (unreadable.resolve_left short)
    exact ⟨reason, by rw [broken]⟩

theorem Http.Response.text_of_readable {r : Http.Response} (readable : ¬ r.Unreadable) :
    r.text = .ok (Utf8.decodeLenient r.body) := by
  have short : ¬ textLimit < r.body.length := fun long => readable (.inl long)
  have whole : r.broken = none := by
    by_contra broken
    exact readable (.inr broken)
  rw [text, if_neg short, whole]

namespace Agent

variable {a : Agent} {s : Http.Network} {path : String} {reply : Http.Response}

/-- A request for a path of the agent is answered with the status 200. -/
def Answers (a : Agent) (path : String) (s : Http.Network) (reply : Http.Response) : Prop :=
  (s.call "GET" (a.rootUrl ++ path) "").1 = .ok reply ∧ reply.status = 200

/-- The network behind a request for a path of the agent. -/
def asked (a : Agent) (path : String) (s : Http.Network) : Http.Network :=
  (s.call "GET" (a.rootUrl ++ path) "").2

theorem fetch_of_answers (answers : a.Answers path s reply) :
    a.fetch path s = (.ok reply, a.asked path s) := by
  obtain ⟨said, ok⟩ := answers
  simp only [fetch, asked]
  generalize s.call "GET" (a.rootUrl ++ path) "" = call at said ⊢
  obtain ⟨answer, after⟩ := call
  subst said
  exact if_pos ok

theorem fetch_of_unanswered (unanswered : ∀ reply, ¬ a.Answers path s reply) :
    ∃ fault, a.fetch path s = (.error (.transport fault), a.asked path s) := by
  unfold Answers at unanswered
  simp only [fetch, asked]
  generalize s.call "GET" (a.rootUrl ++ path) "" = call at unanswered ⊢
  obtain ⟨fault | reply, after⟩ := call
  · exact ⟨_, rfl⟩
  · exact ⟨_, if_neg fun ok => unanswered reply ⟨rfl, ok⟩⟩

theorem current_of_answers (answers : a.Answers "/current" s reply) (readable : ¬ reply.Unreadable) :
    a.current s = (.ok (Utf8.decodeLenient reply.body), a.asked "/current" s) := by
  simp only [current, fetch_of_answers answers, Except.bind, documentOf,
    Http.Response.text_of_readable readable]
  rfl

theorem current_of_unreadable (answers : a.Answers "/current" s reply) (unreadable : reply.Unreadable) :
    ∃ fault, a.current s = (.error (.transport fault), a.asked "/current" s) := by
  obtain ⟨reason, failed⟩ := Http.Response.text_of_unreadable unreadable
  refine ⟨.document reason, ?_⟩
  simp only [current, fetch_of_answers answers, Except.bind, documentOf, failed]
  rfl

theorem current_of_unanswered (unanswered : ∀ reply, ¬ a.Answers "/current" s reply) :
    ∃ fault, a.current s = (.error (.transport fault), a.asked "/current" s) := by
  obtain ⟨fault, failed⟩ := fetch_of_unanswered unanswered
  exact ⟨fault, by simp only [current, failed]; rfl⟩

variable {memory : Nat} {sequence : String}

theorem stream_of_answers (answers : a.Answers (a.streamPath sequence) s reply) :
    a.stream memory sequence s
      = (.ok (Multipart.split (framing memory reply) reply.body), a.asked (a.streamPath sequence) s) := by
  simp only [stream, fetch_of_answers answers]
  rfl

theorem stream_of_unanswered (unanswered : ∀ reply, ¬ a.Answers (a.streamPath sequence) s reply) :
    ∃ fault,
      a.stream memory sequence s = (.error (.transport fault), a.asked (a.streamPath sequence) s) := by
  obtain ⟨fault, failed⟩ := fetch_of_unanswered unanswered
  exact ⟨fault, by simp only [stream, failed]; rfl⟩

end Agent

/-! ## Stages of a run -/

namespace Bridge
open Handshake

variable {ω : Type} {b : Bridge ω} {feed : Feed ω} {l : Lock} {w w₁ w₂ : ω} {e : BridgeFault}
  {document : String} {excerpt : Excerpt}

theorem run_of_no_document (asked : feed.current w = (.error e, w₁)) :
    (b.run feed l w).outcome = .error e := by
  simp only [run, asked]

theorem run_of_unread {fault : ParseFault} (asked : feed.current w = (.ok document, w₁))
    (unread : Excerpt.parse b.space b.watched document = .error fault) :
    (b.run feed l w).outcome = .error (.parse fault) := by
  simp only [run, asked, unread]

theorem run_of_no_stream (asked : feed.current w = (.ok document, w₁))
    (read : Excerpt.parse b.space b.watched document = .ok excerpt)
    (asked₁ : feed.stream excerpt.nextSequence w₁ = (.error e, w₂)) :
    (b.run feed l w).outcome = .error e := by
  simp only [run, asked, read, asked₁]

/-- Chunks that are taken are counted, unless a call crashes. -/
theorem receiveAll_outcome (b : Bridge ω) (l : Lock) (chunks : List (List UInt8)) (w : ω) :
    (b.receiveAll l chunks w).outcome = .ok chunks.length ∨
      ∃ x, CrashesWith b.collaborators x ∧ (b.receiveAll l chunks w).outcome = .crash x := by
  induction chunks generalizing l w with
  | nil => exact .inl rfl
  | cons chunk chunks ih =>
    have later := ih (b.onChunk l chunk w).lock (b.onChunk l chunk w).world
    cases taken : (b.onChunk l chunk w).outcome with
    | crashed x => exact .inr ⟨x, crashesWith_of_onChunk taken, by simp only [receiveAll, taken]⟩
    | processed ts | dropped fault =>
      simp only [receiveAll, taken]
      rcases later with all | ⟨x, crashes, crash⟩
      · exact .inl (by rw [all]; rfl)
      · exact .inr ⟨x, crashes, by rw [crash]; rfl⟩

theorem follow_outcome (b : Bridge ω) (l : Lock) (stream : Multipart.Split) (w : ω) :
    (b.follow l stream w).outcome = endingOf stream ∨
      ∃ x, CrashesWith b.collaborators x ∧ (b.follow l stream w).outcome = .crash x := by
  unfold follow endingOf
  rcases b.receiveAll_outcome l stream.chunks w with all | ⟨x, crashes, crash⟩
  · refine .inl ?_
    cases stream.ending <;> simp only [all]
  · exact .inr ⟨x, crashes, by simp only [crash]⟩

/-- A run that takes a stream ends as the stream does, unless a call crashes. -/
theorem run_of_stream {stream : Multipart.Split} (asked : feed.current w = (.ok document, w₁))
    (read : Excerpt.parse b.space b.watched document = .ok excerpt)
    (asked₁ : feed.stream excerpt.nextSequence w₁ = (.ok stream, w₂)) :
    (b.run feed l w).outcome = endingOf stream ∨
      ∃ x, CrashesWith b.collaborators x ∧ (b.run feed l w).outcome = .crash x := by
  simp only [run, asked, read, asked₁]
  exact b.follow_outcome l stream w₂

end Bridge

namespace Config
open Agent (framing)

variable {c : Config} {computer : Computer} {w : Http.Network} {simulate : Bool}
  {d : Dispatcher Http.Network}

/-- The adapter of a run listens, and the agent answers the first request with a text. -/
structure Begins (c : Config) (computer : Computer) (w : Http.Network) (reply : Http.Response) :
    Prop where
  listens : ¬ computer.CannotListen c.adapter.listen
  answers : c.agent.Answers "/current" w reply
  readable : ¬ reply.Unreadable

/-- The agent's first document is read. -/
inductive Opens (c : Config) (computer : Computer) (w : Http.Network) : Excerpt → Prop
  | read {reply : Http.Response} {excerpt : Excerpt} (begins : c.Begins computer w reply)
      (read : Excerpt.parse c.agent.space c.actions.actions (Utf8.decodeLenient reply.body) = .ok excerpt) :
      Opens c computer w excerpt

/-- The agent answers the request for the stream that follows the first document. -/
inductive Streams (c : Config) (computer : Computer) (w : Http.Network) : Multipart.Split → Prop
  | answered {excerpt : Excerpt} {reply : Http.Response} (opens : c.Opens computer w excerpt)
      (answers : c.agent.Answers (c.agent.streamPath excerpt.nextSequence)
        (c.agent.asked "/current" w) reply) :
      Streams c computer w (Multipart.split (framing computer.memory reply) reply.body)

/-- The bridge of a run cannot be used: the adapter cannot listen, or the first document is none. -/
inductive Unusable (c : Config) (computer : Computer) (w : Http.Network) : Prop
  | unbound (cannot : computer.CannotListen c.adapter.listen)
  | unread {reply : Http.Response} {fault : ParseFault} (begins : c.Begins computer w reply)
      (failed : Excerpt.parse c.agent.space c.actions.actions (Utf8.decodeLenient reply.body)
        = .error fault)

/-- The agent of a run is lost: one of the two requests is not answered with the status 200, the text of
    the first answer cannot be had, or the stream breaks off. -/
inductive Lost (c : Config) (computer : Computer) (w : Http.Network) : Prop
  | noDocument (listens : ¬ computer.CannotListen c.adapter.listen)
      (unanswered : ∀ reply, ¬ c.agent.Answers "/current" w reply)
  | unreadable {reply : Http.Response} (listens : ¬ computer.CannotListen c.adapter.listen)
      (answers : c.agent.Answers "/current" w reply) (unreadable : reply.Unreadable)
  | noStream {excerpt : Excerpt} (opens : c.Opens computer w excerpt)
      (unanswered : ∀ reply, ¬ c.agent.Answers (c.agent.streamPath excerpt.nextSequence)
        (c.agent.asked "/current" w) reply)
  | broken {stream : Multipart.Split} {fault : TransportFault} (streams : c.Streams computer w stream)
      (ended : stream.ending = .error fault) (breaks : Multipart.OfStream fault)

/-- The stream of the agent is followed to its end. -/
def Followed (c : Config) (computer : Computer) (w : Http.Network) : Prop :=
  ∃ stream, c.Streams computer w stream ∧ stream.ending = .ok ()

/-! ## Outcomes of a run -/

/-- A run whose adapter listens is a run of the bridge of the configuration. -/
theorem run_of_listens (connects : c.Connects simulate d)
    (listens : ¬ computer.CannotListen c.adapter.listen) (w : Http.Network) :
    let b := c.bridge d
    let r := b.run (c.agent.feed computer.memory) {} w
    c.run computer simulate w
      = ⟨.ofBridge r.outcome, b.readyCalls ++ Handshake.sinkLog r.events, r.lock, r.world⟩ := by
  simp only [run, dispatcher_of_connects connects, Computer.listen_eq_ok_iff.mpr listens]

/-- A call of the bridge that does not come back waits for an answer of the action server. -/
theorem endless_of_crashesWith (connects : c.Connects simulate d) {x : Crash}
    (crashes : Handshake.CrashesWith (c.bridge d).collaborators x) : x = .endless := by
  rcases crashes with ⟨action, w, crash⟩ | ⟨goal, w, crash⟩
  · exact absurd crash (Bridge.fst_current_ne_crash _ _ _ action w x)
  · cases connects with
    | simulated => exact absurd crash (Bridge.outcome_simulated_ne_crash _ _ _ goal w x)
    | live configured => exact Gateway.endless_of_dispatchAction crash

/-- The exit code of a run. -/
def exitCode (c : Config) (computer : Computer) (simulate : Bool) (w : Http.Network) : ExitCode :=
  (Report.ofOutcome (c.run computer simulate w).outcome).code

section Codes

variable (connects : c.Connects simulate d)

include connects

theorem exitCode_of_outcome {outcome : Outcome BridgeFault Nat}
    (listens : ¬ computer.CannotListen c.adapter.listen)
    (ended : ((c.bridge d).run (c.agent.feed computer.memory) {} w).outcome = outcome) :
    c.exitCode computer simulate w = (Report.ofOutcome (.ofBridge outcome)).code := by
  rw [exitCode, run_of_listens connects listens, ended]

theorem exitCode_of_unusable (unusable : c.Unusable computer w) :
    c.exitCode computer simulate w = .internal := by
  cases unusable with
  | unbound cannot =>
    obtain ⟨⟨fault, failed⟩, -⟩ := (computer.listen_cases c.adapter.listen).resolve_left
      fun listens => listens.2 cannot
    simp only [exitCode, run, dispatcher_of_connects connects, failed]
    rfl
  | unread begins failed =>
    exact exitCode_of_outcome connects begins.listens
      (Bridge.run_of_unread (Agent.current_of_answers begins.answers begins.readable) failed)

/-- A run that is given a stream ends as the stream does, unless a call crashes. -/
theorem exitCode_of_streams {stream : Multipart.Split} (streams : c.Streams computer w stream) :
    c.exitCode computer simulate w = (Report.ofOutcome (.ofBridge (Bridge.endingOf stream))).code ∨
      c.exitCode computer simulate w = .crashed := by
  obtain ⟨⟨begins, read⟩, answers⟩ := streams
  have asked : (c.agent.feed computer.memory).current w = _ :=
    Agent.current_of_answers begins.answers begins.readable
  rcases Bridge.run_of_stream (b := c.bridge d) (l := {}) asked read (Agent.stream_of_answers answers) with
    ended | ⟨x, crashes, crash⟩
  · exact .inl (exitCode_of_outcome connects begins.listens ended)
  · obtain rfl := endless_of_crashesWith connects crashes
    exact .inr (exitCode_of_outcome connects begins.listens crash)

theorem exitCode_of_lost (lost : c.Lost computer w) :
    c.exitCode computer simulate w = .transport ∨ c.exitCode computer simulate w = .crashed := by
  cases lost with
  | noDocument listens unanswered =>
    obtain ⟨fault, asked⟩ := Agent.current_of_unanswered unanswered
    exact .inl (exitCode_of_outcome connects listens (Bridge.run_of_no_document asked))
  | unreadable listens answers unreadable =>
    obtain ⟨fault, asked⟩ := Agent.current_of_unreadable answers unreadable
    exact .inl (exitCode_of_outcome connects listens (Bridge.run_of_no_document asked))
  | noStream opens unanswered =>
    obtain ⟨begins, read⟩ := opens
    obtain ⟨fault, asked⟩ := Agent.stream_of_unanswered unanswered
    exact .inl (exitCode_of_outcome connects begins.listens
      (Bridge.run_of_no_stream (Agent.current_of_answers begins.answers begins.readable) read asked))
  | broken streams ended breaks =>
    have transport := exitCode_of_streams connects streams
    rw [Bridge.endingOf, ended] at transport
    exact transport

theorem exitCode_of_followed (followed : c.Followed computer w) :
    c.exitCode computer simulate w = .success ∨ c.exitCode computer simulate w = .crashed := by
  obtain ⟨stream, streams, ended⟩ := followed
  have success := exitCode_of_streams connects streams
  rw [Bridge.endingOf, ended] at success
  exact success

/-- A run without crashes ends in one of three ways, unless a chunk is beyond the memory. -/
theorem cases_of_exitCode (calm : c.exitCode computer simulate w ≠ .crashed) :
    c.Unusable computer w ∨ c.Lost computer w ∨ c.Followed computer w ∨
      c.exitCode computer simulate w = .aborted := by
  by_cases listens : ¬ computer.CannotListen c.adapter.listen
  · by_cases answered : ∃ reply, c.agent.Answers "/current" w reply
    · obtain ⟨reply, answers⟩ := answered
      by_cases readable : ¬ reply.Unreadable
      · have begins : c.Begins computer w reply := ⟨listens, answers, readable⟩
        cases read : Excerpt.parse c.agent.space c.actions.actions (Utf8.decodeLenient reply.body) with
        | error fault => exact .inl (.unread begins read)
        | ok excerpt =>
          have opens : c.Opens computer w excerpt := .read begins read
          by_cases streamed : ∃ reply, c.agent.Answers (c.agent.streamPath excerpt.nextSequence)
              (c.agent.asked "/current" w) reply
          · obtain ⟨reply₁, answers₁⟩ := streamed
            have streams := Streams.answered opens answers₁
            have code := exitCode_of_streams connects streams
            cases ended : (Multipart.split (framing computer.memory reply₁) reply₁.body).ending with
            | ok u => exact .inr (.inr (.inl ⟨_, streams, ended⟩))
            | error fault => exact .inr (.inl (.broken streams ended (Multipart.ofStream_of_error ended)))
            | crash x =>
              rw [Bridge.endingOf, ended] at code
              have ends := code.resolve_right calm
              cases x with
              | panic | endless => exact absurd ends calm
              | abort n => exact .inr (.inr (.inr ends))
          · exact .inr (.inl (.noStream opens (not_exists.mp streamed)))
      · exact .inr (.inl (.unreadable listens answers (not_not.mp readable)))
    · exact .inr (.inl (.noDocument listens (not_exists.mp answered)))
  · exact .inl (.unbound (not_not.mp listens))

/-- The exit code of a run without crashes is that of what ended it. -/
theorem toNat_exitCode (calm : c.exitCode computer simulate w ≠ .crashed) :
    let code := (c.exitCode computer simulate w).toNat
    code ≠ 10 ∧ (code = 20 ↔ c.Unusable computer w) ∧ (code = 11 ↔ c.Lost computer w) ∧
      (code = 0 ↔ c.Followed computer w) := by
  intro code
  have internal : c.Unusable computer w → code = 20 := fun unusable =>
    congrArg ExitCode.toNat (exitCode_of_unusable connects unusable)
  have transport : c.Lost computer w → code = 11 := fun lost =>
    congrArg ExitCode.toNat ((exitCode_of_lost connects lost).resolve_right calm)
  have success : c.Followed computer w → code = 0 := fun followed =>
    congrArg ExitCode.toNat ((exitCode_of_followed connects followed).resolve_right calm)
  rcases cases_of_exitCode connects calm with unusable | lost | followed | aborted
  · have is := internal unusable
    exact ⟨by omega, ⟨fun _ => unusable, internal⟩, ⟨by omega, transport⟩, ⟨by omega, success⟩⟩
  · have is := transport lost
    exact ⟨by omega, ⟨by omega, internal⟩, ⟨fun _ => lost, transport⟩, ⟨by omega, success⟩⟩
  · have is := success followed
    exact ⟨by omega, ⟨by omega, internal⟩, ⟨by omega, transport⟩, ⟨fun _ => followed, success⟩⟩
  · have is : code = 134 := congrArg ExitCode.toNat aborted
    exact ⟨by omega, ⟨by omega, internal⟩, ⟨by omega, transport⟩, ⟨by omega, success⟩⟩

end Codes

end Config

/-! ## Commands -/

namespace Command

variable {computer : Computer} {files : String → Except ReadFault (List UInt8)} {path : String}
  {simulate : Bool}

/-- A check tells whether a configuration loads. -/
theorem execute_validate (computer : Computer) (files : String → Except ReadFault (List UInt8))
    (w : Http.Network) (path : String) :
    let loaded := Config.load path (files path)
    let code := (execute computer files w (some (.validate path))).1.code.toNat
    (code = 0 ↔ ∃ c, loaded = .ok c) ∧ (code = 10 ↔ ∃ e, loaded = .error e) := by
  intro loaded code
  cases read : Config.load path (files path) with
  | ok c =>
    have success : code = 0 := by
      simp only [code, execute, read]
      rfl
    simp [success, loaded, read]
  | error e =>
    obtain ⟨file, fault, rfl⟩ := Config.exists_of_load_error read
    have invalid : code = 10 := by
      simp only [code, execute, read]
      rfl
    simp [invalid, loaded, read]

theorem execute_run_of_load {c : Config} (loaded : Config.load path (files path) = .ok c)
    (simulate : Bool) (w : Http.Network) :
    execute computer files w (some (.run path simulate))
      = (.ofOutcome (c.run computer simulate w).outcome, (c.run computer simulate w).world) := by
  simp only [execute, loaded]

theorem execute_run_of_listens {c : Config} {d : Dispatcher Http.Network}
    (loaded : Config.load path (files path) = .ok c) (connects : c.Connects simulate d)
    (listens : ¬ computer.CannotListen c.adapter.listen) (w : Http.Network) :
    let r := (c.bridge d).run (c.agent.feed computer.memory) {} w
    execute computer files w (some (.run path simulate)) = (.ofOutcome (.ofBridge r.outcome), r.world) := by
  rw [execute_run_of_load loaded, Config.run_of_listens connects listens]

/-- A configuration that is refused ends a run with the code for it, and nothing is asked for. -/
theorem execute_run_of_refused (refused : Config.Refused path (files path) simulate) (w : Http.Network) :
    (execute computer files w (some (.run path simulate))).1.code = .invalidConfig ∧
      (execute computer files w (some (.run path simulate))).2 = w := by
  cases refused with
  | unloaded failed =>
    obtain ⟨file, fault, rfl⟩ := Config.exists_of_load_error failed
    simp only [execute, failed, and_true]
    rfl
  | @serverless s c live loads absent =>
    have absent := (Config.server_eq_none_iff loads.made).mpr absent
    have refused : c.run computer simulate w = .refused (.bridge (.invalidConfig none .serverRequired)) w := by
      simp only [Config.run, Config.dispatcher, live, absent, Bool.false_eq_true, if_false]
    rw [execute_run_of_load (Config.load_eq_ok.mpr ⟨s, loads⟩), refused]
    exact ⟨rfl, rfl⟩

/-- A configuration is refused, or it loads and its actions can be connected. -/
theorem refused_or_connects (path : String) (content : Except ReadFault (List UInt8)) (simulate : Bool) :
    Config.Refused path content simulate ∨
      ∃ c d, Config.load path content = .ok c ∧ c.Connects simulate d := by
  cases loaded : Config.load path content with
  | error e => exact .inl (.unloaded loaded)
  | ok c =>
    by_cases serverless : simulate = false ∧ c.dispatch.server = none
    · obtain ⟨live, none⟩ := serverless
      obtain ⟨s, loads⟩ := Config.load_eq_ok.mp loaded
      exact .inl (.serverless live loads ((Config.server_eq_none_iff loads.made).mp none))
    · obtain ⟨d, connects⟩ := Config.exists_connects fun live none => serverless ⟨live, none⟩
      exact .inr ⟨c, d, rfl, connects⟩

/-- The exit codes of the commands that take a configuration. A check tells whether the configuration
    loads. A run that does not crash tells whether it is refused, before it asks for anything, and if not
    what ends the run of its bridge, which is connected to a simulation exactly if one is asked for. -/
theorem execute_code (computer : Computer) (files : String → Except ReadFault (List UInt8))
    (w : Http.Network) (path : String) (simulate : Bool) :
    let loaded := Config.load path (files path)
    let refused := Config.Refused path (files path) simulate
    let checked := (execute computer files w (some (.validate path))).1.code.toNat
    let ran := execute computer files w (some (.run path simulate))
    (checked = 0 ↔ ∃ c, loaded = .ok c) ∧ (checked = 10 ↔ ∃ e, loaded = .error e) ∧
      (ran.1.code ≠ .crashed →
        (ran.1.code.toNat = 10 ↔ refused) ∧ (refused → ran.2 = w) ∧
          ∀ c, loaded = .ok c → ¬ refused →
            (ran.1.code.toNat = 20 ↔ c.Unusable computer w) ∧
              (ran.1.code.toNat = 11 ↔ c.Lost computer w) ∧
              (ran.1.code.toNat = 0 ↔ c.Followed computer w) ∧
              ∃ d, c.Connects simulate d ∧
                (¬ computer.CannotListen c.adapter.listen →
                  let r := (c.bridge d).run (c.agent.feed computer.memory) {} w
                  ran = (.ofOutcome (.ofBridge r.outcome), r.world))) := by
  intro loaded refused checked ran
  obtain ⟨accepted, rejected⟩ := execute_validate computer files w path
  refine ⟨accepted, rejected, fun calm => ?_⟩
  -- A configuration that loads and is not refused has its code from the run of its bridge.
  have code {c : Config} (read : loaded = .ok c) : ran.1.code = c.exitCode computer simulate w :=
    congrArg (·.1.code) (execute_run_of_load read simulate w)
  have out : refused → ran.1.code.toNat = 10 ∧ ran.2 = w := fun out =>
    (execute_run_of_refused out w).imp_left (congrArg ExitCode.toNat)
  refine ⟨⟨fun ten => ?_, fun h => (out h).1⟩, fun h => (out h).2, fun c read running => ?_⟩
  · rcases refused_or_connects path (files path) simulate with out | ⟨c, d, read, connects⟩
    · exact out
    · rw [code read] at calm ten
      exact absurd ten (Config.toNat_exitCode connects calm).1
  · obtain ⟨c', d, read', connects⟩ := (refused_or_connects path (files path) simulate).resolve_left running
    obtain rfl := Except.ok.inj (read.symm.trans read')
    rw [code read] at calm ⊢
    obtain ⟨-, unusable, lost, followed⟩ := Config.toNat_exitCode connects calm
    exact ⟨unusable, lost, followed, d, connects,
      fun listens => execute_run_of_listens read connects listens w⟩

/-! ## Two runs -/

/-- Files that hold a configuration without action server. -/
def serverlessFiles (_path : String) : Except ReadFault (List UInt8) :=
  .ok (Utf8.bytesOf ("agent.url=\"http://a\"\nagent.namespace=\"urn:m\"\n"
    ++ "actions.m.Drill=\x7bgoal_element=\"Depth\",fields=[\x7bkey=\"depth\",kind=\"text\"\x7d]\x7d"))

def currentLine : Http.Line := ⟨Http.hostA.address, "GET /current"⟩

def sampleLine : Http.Line := ⟨Http.hostA.address, "GET /sample?interval=1000&count=1000&from=7"⟩

/-- An agent with these answers to the first request and to the request for the stream. -/
def agentNetwork (first : Http.Response) (stream : String) : Http.Network where
  listening := [Http.hostA.address]
  scripts :=
    [ (currentLine, [first])
    , (sampleLine, [{ contentType := some "multipart/x-mixed-replace;boundary=B"
                      body := Utf8.bytesOf stream }]) ]

/-- A simulated run needs no action server, and loses an agent whose stream ends inside its first
    part. -/
theorem execute_code_breaking :
    let network := agentNetwork (Bridge.pageOf "") "--B\nContent-length: 9\n\n<a/>"
    ∃ c, Config.load "bridge.toml" (serverlessFiles "bridge.toml") = .ok c ∧ c.dispatch.server = none ∧
      c.Lost {} network := by
  intro network
  have ran : (Config.load "bridge.toml" (serverlessFiles "bridge.toml")).toOption.map (fun c =>
      (c.dispatch.server, c.exitCode {} true network)) = some (none, .transport) := by
    decide +kernel
  cases loaded : Config.load "bridge.toml" (serverlessFiles "bridge.toml") with
  | error e =>
    rw [loaded] at ran
    cases ran
  | ok c =>
    rw [loaded] at ran
    obtain ⟨serverless, transport⟩ := Prod.mk.inj (Option.some.inj ran)
    have code : (execute {} serverlessFiles network (some (.run "bridge.toml" true))).1.code
        = .transport := by
      rw [execute_run_of_load loaded]
      exact transport
    obtain ⟨-, -, runs⟩ := execute_code {} serverlessFiles network "bridge.toml" true
    rw [code] at runs
    obtain ⟨refused, -, ends⟩ := runs (by decide)
    obtain ⟨-, lost, -⟩ := ends c loaded (refused.not.mp (by decide))
    exact ⟨c, rfl, serverless, lost.mp rfl⟩

/-- With this first answer the agent is taken for lost, though both of its answers have the status 200 and
    the stream ends behind its last part. -/
def TakenForLost (first : Http.Response) : Prop :=
  let network := agentNetwork first "--B\nContent-length: 4\n\n<a/>\n"
  let stream := network.answer sampleLine 0
  (network.answer currentLine 0).status = 200 ∧ stream.status = 200 ∧
    (Multipart.split (Agent.framing Multipart.addressable stream) stream.body).ending = .ok () ∧
    (execute {} serverlessFiles network (some (.run "bridge.toml" true))).1.code.toNat = 11

/-- The first answer may be one that cannot be read, on account of the reason behind the status or of a
    body that breaks off. -/
theorem execute_unreadable :
    TakenForLost { Bridge.pageOf "" with reason := "✓" } ∧
      TakenForLost { Bridge.pageOf "" with broken := some "connection reset" } := by
  unfold TakenForLost
  decide +kernel

end Command
end ActionBridge
