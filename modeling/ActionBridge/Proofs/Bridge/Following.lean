import ActionBridge.Proofs.Bridge.Fetching
import ActionBridge.Proofs.Multipart.Lengths

/-!
# Following an agent

A run asks the agent for its current document, then for the stream from there on, and takes the chunks
of the stream one by one. Which of the five ways it goes (`Follows`) is decided by the two answers, and
every run goes one of them (`run_follows`): what fails before the stream ends the run untouched, and
what fails behind it is the matter of one transition.
-/
namespace ActionBridge.Bridge
open Handshake Agent
open Http (Network Target Response heard? IsOk)

variable {ω : Type}

/-! ## Chunks of a stream -/

/-- How a run ends that takes all the chunks of a stream: as the stream does. -/
def endingOf (stream : Multipart.Split) : Outcome BridgeFault Nat :=
  match stream.ending with
  | .ok () => .ok stream.chunks.length
  | .error fault => .error (.transport fault)
  | .crash x => .crash x

theorem follow_of_calm {b : Bridge ω} (calm : ∀ x, ¬ CrashesWith b.collaborators x) (l : Lock)
    (stream : Multipart.Split) (w : ω) :
    let taken := b.receiveEach l stream.chunks w
    b.follow l stream w = ⟨endingOf stream, taken.lock, taken.events, taken.world⟩ := by
  obtain ⟨chunks, ending⟩ := stream
  simp only [follow, receiveAll_of_calm calm, endingOf]
  cases ending <;> rfl

/-! ## Goals from the same agent -/

/-- What a run asks the agent for behind a world `w` if the goals come from the agent and the dispatcher
    is `d`: the current document once for each request of the machine tool, in order, and nothing
    else. -/
structure AsksForGoals (b : Bridge ω) (feed : Feed ω) (view : ω → Network) (folder : Target) (w : ω)
    (taken : Received ω) (d : Dispatcher ω) : Prop where
  fetches : Fetches feed b.registry b.space d w taken.transitions taken.world
  requests : ∀ own : Http.Request → Prop,
    (∀ goal w, ∃ others, (∀ r ∈ others, own r) ∧ view (d goal w).world = (view w).after others) →
    ∃ pieces, List.Forall₂ (Asks folder own) taken.transitions pieces ∧
      (view taken.world).requests = (view w).requests ++ pieces.flatten

theorem asksForGoals_receiveEach {b : Bridge ω} {a : Agent} {memory : Nat} {feed : Feed ω}
    {view : ω → Network} {folder : Target} {w : ω} {d : Dispatcher ω} (reads : IsFeed feed a memory view)
    (serves : (view w).Serves a.rootUrl folder) (calm : ∀ x, ¬ CrashesWith b.collaborators x)
    (goals : b.collaborators = ⟨.current feed.current b.registry b.space, d⟩) (l : Lock)
    (chunks : List (List UInt8)) :
    AsksForGoals b feed view folder w (b.receiveEach l chunks w) d where
  fetches := fetches_of_receiveEach goals calm l chunks w
  requests own sends := by
    obtain ⟨pieces, each, whole⟩ :=
      (fetches_of_receiveEach goals calm l chunks w).exists_requests reads serves sends
    exact ⟨pieces, each, by rw [whole, Http.requests_after]⟩

/-! ## Ways of a run -/

/-- The five ways in which a run can go whose agent is in a network `s`. -/
inductive Follows (b : Bridge ω) (a : Agent) (memory : Nat) (feed : Feed ω) (view : ω → Network)
    (folder : Target) (l : Lock) (s : Network) : Ran ω Nat → Prop
  | unanswered {fault : BridgeFault} {w : ω}
      (refused : ¬ IsOk (s.answer (currentRequest folder).line 0))
      (asked : a.current s = (.error fault, view w))
      (sent : view w = s.after [currentRequest folder]) :
      Follows b a memory feed view folder l s ⟨.error fault, l, [], w⟩
  | incomplete {heard : Response} {reason : String} {w : ω}
      (answered : heard ∈ heard? (s.answer (currentRequest folder).line 0)) (ok : heard.status = 200)
      (failed : heard.text = .error reason) (sent : view w = s.after [currentRequest folder]) :
      Follows b a memory feed view folder l s ⟨.error (.transport (.document reason)), l, [], w⟩
  | unreadable {heard : Response} {document : String} {fault : ParseFault} {w : ω}
      (answered : heard ∈ heard? (s.answer (currentRequest folder).line 0)) (ok : heard.status = 200)
      (whole : heard.text = .ok document)
      (unread : Excerpt.parse b.space b.watched document = .error fault)
      (sent : view w = s.after [currentRequest folder]) :
      Follows b a memory feed view folder l s ⟨.error (.parse fault), l, [], w⟩
  | unstreamed {heard : Response} {document : String} {excerpt : Excerpt} {fault : BridgeFault} {w : ω}
      (answered : heard ∈ heard? (s.answer (currentRequest folder).line 0)) (ok : heard.status = 200)
      (whole : heard.text = .ok document)
      (read : Excerpt.parse b.space b.watched document = .ok excerpt)
      (refused : ¬ IsOk (s.answer (a.streamRequest folder excerpt.nextSequence).line 0))
      (asked : a.stream memory excerpt.nextSequence (s.after [currentRequest folder])
        = (.error fault, view w))
      (sent : view w
        = s.after [currentRequest folder, a.streamRequest folder excerpt.nextSequence]) :
      Follows b a memory feed view folder l s ⟨.error fault, l, [], w⟩
  | followed {heard reply : Response} {document : String} {excerpt : Excerpt} {stream : Multipart.Split}
      {w : ω} {taken : Received ω}
      (answered : heard ∈ heard? (s.answer (currentRequest folder).line 0)) (ok : heard.status = 200)
      (whole : heard.text = .ok document)
      (read : Excerpt.parse b.space b.watched document = .ok excerpt)
      (streamed : reply ∈ heard? (s.answer (a.streamRequest folder excerpt.nextSequence).line 0))
      (streams : reply.status = 200) (cut : stream = Multipart.split (framing memory reply) reply.body)
      (bounded : ∀ x, stream.ending = .crash x → ∃ n,
        Multipart.Announces (framing memory reply) (.ofBytes reply.body) n ∧
          (framing memory reply).room ≤ n)
      (sent : view w
        = s.after [currentRequest folder, a.streamRequest folder excerpt.nextSequence])
      (takes : taken = b.receiveEach l stream.chunks w)
      (goals : ∀ d, b.collaborators = ⟨.current feed.current b.registry b.space, d⟩ →
        AsksForGoals b feed view folder w taken d) :
      Follows b a memory feed view folder l s
        ⟨endingOf stream, taken.lock, taken.events, taken.world⟩

/-- Every run goes one of the five ways, and which one the two answers of the agent decide. -/
theorem run_follows {b : Bridge ω} {a : Agent} {memory : Nat} {feed : Feed ω} {view : ω → Network}
    {folder : Target} {l : Lock} {w : ω} (reads : IsFeed feed a memory view)
    (serves : (view w).Serves a.rootUrl folder) (calm : ∀ x, ¬ CrashesWith b.collaborators x)
    (plain : ∀ heard ∈ heard? ((view w).answer (currentRequest folder).line 0), heard.status = 200 →
      ∀ document excerpt, heard.text = .ok document →
        Excerpt.parse b.space b.watched document = .ok excerpt →
          ∀ c ∈ excerpt.nextSequence.toList, Http.isUnreserved c = true) :
    Follows b a memory feed view folder l (view w) (b.run feed l w) := by
  rcases Agent.current_cases serves with ⟨heard, answered, ok, asked⟩ | ⟨refused, fault, asked⟩
  · obtain ⟨w₁, said, sent⟩ := reads.exists_current asked
    rcases Agent.documentOf_cases heard with ⟨reason, failed, none⟩ | ⟨document, whole, given⟩
    · rw [none] at said
      simp only [run, said]
      exact .incomplete answered ok failed sent
    rw [given] at said
    cases read : Excerpt.parse b.space b.watched document with
    | error unread =>
      simp only [run, said, read]
      exact .unreadable answered ok whole read sent
    | ok excerpt =>
      -- The stream is asked for behind the question for the document, which does not change its answer.
      have untouched := a.answer_streamRequest_after (view w) folder excerpt.nextSequence 0
      rw [← sent] at untouched
      have both : (view w₁).after [a.streamRequest folder excerpt.nextSequence] = (view w).after
          [currentRequest folder, a.streamRequest folder excerpt.nextSequence] := by
        rw [sent, ← Http.after_append, List.singleton_append]
      have serves₁ : (view w₁).Serves a.rootUrl folder := sent ▸ serves.after _
      have chars := plain heard answered ok document excerpt whole read
      rcases Agent.stream_cases memory serves₁ chars with
        ⟨reply, replied, streams, asked₁⟩ | ⟨refused, fault, asked₁⟩
      · obtain ⟨w₂, said₁, sent₁⟩ := reads.exists_stream asked₁
        rw [untouched] at replied
        have bounded (x : Crash)
            (crash : (Multipart.split (framing memory reply) reply.body).ending = .crash x) :=
          Multipart.exists_announces_of_crash crash
        simp only [run, said, read, said₁, follow_of_calm calm]
        exact .followed answered ok whole read replied streams rfl
          (fun x crash => (bounded x crash).imp fun n found => ⟨found.1, found.2.1⟩) (sent₁.trans both)
          rfl fun d goals => asksForGoals_receiveEach reads (sent₁ ▸ serves₁.after _) calm goals l _
      · obtain ⟨w₂, said₁, sent₁⟩ := reads.exists_stream asked₁
        rw [untouched] at refused
        simp only [run, said, read, said₁]
        exact .unstreamed answered ok whole read refused (by rw [← sent, sent₁, asked₁]) (sent₁.trans both)
  · obtain ⟨w₁, said, sent⟩ := reads.exists_current asked
    simp only [run, said]
    exact .unanswered refused (sent ▸ asked) sent

/-! ## A run with one request -/

/-- A document of the namespace `urn:m`. -/
def pageOf (content : String) : Response :=
  { body := Utf8.bytesOf ("<s xmlns=\"urn:m\"><Header nextSequence=\"7\"/>" ++ content ++ "</s>") }

def loadingAgent : Agent := ⟨"http://a", none, "urn:m", 10, 1⟩

/-- An agent whose stream is one document in which the machine tool asks for an action. The stream
    breaks off behind it. -/
def loadingNetwork : Network where
  listening := [Http.hostA.address]
  scripts :=
    [ (⟨Http.hostA.address, "GET /current"⟩, [pageOf "<Material>steel</Material>"])
    , (⟨Http.hostA.address, "GET /sample?interval=10&count=1&from=7"⟩,
        [{ contentType := some "multipart/x-mixed-replace;boundary=B"
           body := Utf8.bytesOf "--B\nContent-length: 75\n\n" ++ (pageOf "<load name=\"h\">ACTIVE</load>").body
           broken := some "connection reset" }]) ]

/-- A bridge to an action that takes its goals from the agent and is done at once. -/
def loadingBridge : Bridge Network :=
  let r := Registry.ofSchemas [⟨"urn:m", "load", "Material", [⟨"kind", .text, none⟩], none⟩]
  ⟨r, "urn:m", ⟨.current loadingAgent.current r "urn:m", fun _ s => ⟨.ok "done", [], s⟩⟩⟩

theorem calm_loadingBridge (x : Crash) : ¬ CrashesWith loadingBridge.collaborators x := by
  have goals : loadingBridge.collaborators.goals
      = .current loadingAgent.current loadingBridge.registry "urn:m" := rfl
  rintro (⟨action, s, crash⟩ | ⟨goal, s, crash⟩)
  · rw [goals] at crash
    exact fst_current_ne_crash _ _ _ action s x crash
  · nomatch crash

/-- The machine tool asks for one action: the agent is asked for the document, for the stream, and for
    the document once more on account of the request. Then the stream breaks off. -/
theorem run_follows_loading :
    let ran := loadingBridge.run (loadingAgent.feed 1024) {} loadingNetwork
    Follows loadingBridge loadingAgent 1024 (loadingAgent.feed 1024) id Http.hostA {} loadingNetwork ran ∧
      ran.outcome = .error (.transport (.read "connection reset")) ∧ ran.lock = ⟨⟨some "h"⟩, false⟩ ∧
      ran.world.requests = [currentRequest Http.hostA, loadingAgent.streamRequest Http.hostA "7",
        currentRequest Http.hostA] := by
  have answer : heard? (loadingNetwork.answer (currentRequest Http.hostA).line 0)
      = some (pageOf "<Material>steel</Material>") := by decide +kernel
  have first : (pageOf "<Material>steel</Material>").text.toOption.map
      (Excerpt.parse loadingBridge.space loadingBridge.watched) = some (.ok ⟨"7", []⟩) := by
    decide +kernel
  have plain : ∀ heard ∈ heard? (loadingNetwork.answer (currentRequest Http.hostA).line 0),
      heard.status = 200 → ∀ document excerpt, heard.text = .ok document →
        Excerpt.parse loadingBridge.space loadingBridge.watched document = .ok excerpt →
          ∀ c ∈ excerpt.nextSequence.toList, Http.isUnreserved c = true := by
    intro heard answered ok document excerpt whole read
    rw [answer] at answered
    obtain rfl := Option.some.inj answered
    rw [whole] at first
    obtain rfl : (⟨"7", []⟩ : Excerpt) = excerpt :=
      Except.ok.inj ((Option.some.inj first).symm.trans read)
    exact List.all_eq_true.mp (by decide)
  have trimmed : loadingAgent.rootUrl = "http://a" := by decide +kernel
  have serves : loadingNetwork.Serves loadingAgent.rootUrl Http.hostA :=
    trimmed ▸ Http.serves_hostA List.mem_cons_self
  refine ⟨run_follows (isFeed_feed loadingAgent 1024) serves calm_loadingBridge plain, ?_⟩
  decide +kernel

end ActionBridge.Bridge
