import ActionBridge.Proofs.Agent
import ActionBridge.Proofs.Assoc
import ActionBridge.Proofs.Bridge.Chunks
import ActionBridge.Proofs.Document.Excerpt
import ActionBridge.Proofs.Transactions

/-!
# Goals from the agent

Where goals come from the agent, a request of the machine tool has the bridge ask for the current
document once, and nothing else does (`Fetches`). An answer that no goal can be made of fails that
request alone.
-/
namespace ActionBridge

/-! ## Watched elements -/

theorem Registry.exists_get?_of_mem_actions {r : Registry} {action : String}
    (member : action ∈ r.actions) : ∃ s, r.get? action = some s := by
  cases found : r.get? action with
  | some s => exact ⟨s, rfl⟩
  | none => exact absurd member (Assoc.notMem_keys_of_get?_eq_none found)

theorem Handshake.mem_arrange {m : Handshake.Machine} {es : List Element} {e : Element} :
    e ∈ m.arrange es ↔ e ∈ es :=
  (arrange_perm m es).mem_iff

namespace Bridge
open Handshake

variable {ω : Type}

/-! ## Questions for the current document -/

/-- Whether a transition comes of a request of the machine tool. -/
def isRequested : Transition → Bool
  | .dispatched .. | .dispatchFailed .. => true
  | .completed .. | .ignored .. => false

/-- What the current document is asked for on account of transitions, from a world to another: once
    for each request, in order, and what becomes of the request with the answer. -/
inductive Fetches (feed : Feed ω) (r : Registry) (space : String) (d : Dispatcher ω) :
    ω → List Transition → ω → Prop
  | nil (w : ω) : Fetches feed r space d w [] w
  | unasked {w w₁ : ω} {t : Transition} {ts : List Transition} (other : isRequested t = false)
      (later : Fetches feed r space d w ts w₁) : Fetches feed r space d w (t :: ts) w₁
  | unanswered {w w₁ w₂ : ω} {action handshake : String} {cause : BridgeFault} {ts : List Transition}
      (asked : feed.current w = (.error cause, w₁)) (later : Fetches feed r space d w₁ ts w₂) :
      Fetches feed r space d w (.dispatchFailed action handshake (.unavailable cause) :: ts) w₂
  | malformed {w w₁ w₂ : ω} {document action handshake : String} {ts : List Transition}
      (asked : feed.current w = (.ok document, w₁)) (unread : Xml.read? document = none)
      (later : Fetches feed r space d w₁ ts w₂) :
      Fetches feed r space d w
        (.dispatchFailed action handshake (.unavailable (.parse .malformed)) :: ts) w₂
  | unusable {w w₁ w₂ : ω} {s : Goal.Schema} {document handshake : String} {err : DispatchFault}
      {ts : List Transition} (asked : feed.current w = (.ok document, w₁))
      (legible : Xml.read? document ≠ none) (known : r.get? s.action = some s)
      (refused : s.fromDocument space document = .error err)
      (later : Fetches feed r space d w₁ ts w₂) :
      Fetches feed r space d w (.dispatchFailed s.action handshake err :: ts) w₂
  | failed {w w₁ w₂ w₃ : ω} {s : Goal.Schema} {goal : Goal} {document handshake : String}
      {err : DispatchFault} {calls : List SinkCall} {ts : List Transition}
      (asked : feed.current w = (.ok document, w₁)) (known : r.get? s.action = some s)
      (made : s.fromDocument space document = .ok goal) (ran : d goal w₁ = ⟨.error err, calls, w₂⟩)
      (later : Fetches feed r space d w₂ ts w₃) :
      Fetches feed r space d w (.dispatchFailed s.action handshake err :: ts) w₃
  | dispatched {w w₁ w₂ w₃ : ω} {s : Goal.Schema} {goal : Goal} {document handshake result : String}
      {superseded : Option String} {calls : List SinkCall} {ts : List Transition}
      (asked : feed.current w = (.ok document, w₁)) (known : r.get? s.action = some s)
      (made : s.fromDocument space document = .ok goal) (ran : d goal w₁ = ⟨.ok result, calls, w₂⟩)
      (later : Fetches feed r space d w₂ ts w₃) :
      Fetches feed r space d w (.dispatched s.action handshake result superseded :: ts) w₃

variable {feed : Feed ω} {r : Registry} {space : String} {d : Dispatcher ω}

theorem Fetches.append {w w₁ w₂ : ω} {ts ts₁ : List Transition} (first : Fetches feed r space d w ts w₁)
    (second : Fetches feed r space d w₁ ts₁ w₂) : Fetches feed r space d w (ts ++ ts₁) w₂ := by
  induction first with
  | nil w => exact second
  | unasked other _ ih => exact .unasked other (ih second)
  | unanswered asked _ ih => exact .unanswered asked (ih second)
  | malformed asked unread _ ih => exact .malformed asked unread (ih second)
  | unusable asked legible known refused _ ih => exact .unusable asked legible known refused (ih second)
  | failed asked known made ran _ ih => exact .failed asked known made ran (ih second)
  | dispatched asked known made ran _ ih => exact .dispatched asked known made ran (ih second)

/-- What becomes of asking the source that reads the current document. -/
theorem current_cases (feed : Feed ω) (r : Registry) (space : String) {action : String}
    {s : Goal.Schema} (known : r.get? action = some s) (w : ω) :
    (∃ cause w₁, feed.current w = (.error cause, w₁) ∧
        Goal.Source.current feed.current r space action w = (.error (.unavailable cause), w₁)) ∨
      ∃ document w₁, feed.current w = (.ok document, w₁) ∧
        Goal.Source.current feed.current r space action w
          = (.ofExcept (s.fromDocument space document), w₁) := by
  unfold Goal.Source.current
  rw [known]
  rcases feed.current w with ⟨cause | document, w₁⟩
  · exact .inl ⟨cause, w₁, rfl, rfl⟩
  · exact .inr ⟨document, w₁, rfl, rfl⟩

/-- Reading the current document fails at worst with an error. -/
theorem fst_current_ne_crash (documents : DocumentSource ω) (r : Registry) (space action : String)
    (w : ω) (x : Crash) : (Goal.Source.current documents r space action w).1 ≠ .crash x := by
  unfold Goal.Source.current
  split
  · nofun
  · next s known =>
    split
    · nofun
    · next document w₁ answered => cases s.fromDocument space document <;> nofun

theorem exists_document_of_goal {feed : Feed ω} {r : Registry} {space action : String} {s : Goal.Schema}
    {w w₁ : ω} {goal : Goal} (known : r.get? action = some s)
    (asked : Goal.Source.current feed.current r space action w = (.ok goal, w₁)) :
    ∃ document, feed.current w = (.ok document, w₁) ∧ s.fromDocument space document = .ok goal := by
  rcases current_cases feed r space known w with ⟨cause, w₂, -, made⟩ | ⟨document, w₂, answered, made⟩
  · cases made.symm.trans asked
  · cases outcome : s.fromDocument space document with
    | error err =>
      rw [outcome] at made
      cases made.symm.trans asked
    | ok goal' =>
      rw [outcome] at made
      cases made.symm.trans asked
      exact ⟨document, answered, outcome⟩

theorem fromDocument_of_malformed (s : Goal.Schema) (space : String) {document : String}
    (unread : Xml.read? document = none) :
    s.fromDocument space document = .error (.unavailable (.parse .malformed)) := by
  rw [Goal.Schema.fromDocument, Excerpt.textOf, unread]

theorem fetches_of_processed {m m₁ : Machine} {w w₁ : ω} {es : List Element} {ts : List Transition}
    {events : List Event}
    (processed : Processed ⟨.current feed.current r space, d⟩ m w es ts events m₁ w₁)
    (known : ∀ e ∈ es, e.action ∈ r.actions) : Fetches feed r space d w ts w₁ := by
  induction processed with
  | nil m w => exact .nil w
  | @cons m m₁ m₂ w w₁ w₂ e es t ts events later head tail ih =>
    have rest := ih fun e member => known e (List.mem_cons_of_mem _ member)
    obtain ⟨s, found⟩ := Registry.exists_get?_of_mem_actions (known e List.mem_cons_self)
    have named : s.action = e.action := Registry.action_of_get? found
    have asks := current_cases feed r space found w
    have applies := head ▸ apply_applies _ m e w
    cases applies with
    | goalFailed active fresh asked =>
      rcases asks with ⟨cause, w₂, answered, made⟩ | ⟨document, w₂, answered, made⟩
      · cases made.symm.trans asked
        exact .unanswered answered rest
      · cases outcome : s.fromDocument space document with
        | ok goal =>
          rw [outcome] at made
          cases made.symm.trans asked
        | error err =>
          rw [outcome] at made
          cases made.symm.trans asked
          by_cases legible : Xml.read? document = none
          · rw [fromDocument_of_malformed s space legible] at outcome
            cases outcome
            exact .malformed answered legible rest
          · rw [← named] at found ⊢
            exact .unusable answered legible found outcome rest
    | dispatchFailed active fresh asked ran =>
      obtain ⟨document, answered, made⟩ := exists_document_of_goal found asked
      rw [← named] at found ⊢
      exact .failed answered found made ran rest
    | dispatched active fresh asked ran =>
      obtain ⟨document, answered, made⟩ := exists_document_of_goal found asked
      rw [← named] at found ⊢
      exact .dispatched answered found made ran rest
    | completed ready current => exact .unasked rfl rest
    | ignored repeated stale => exact .unasked rfl rest

/-! ## Chunks -/

/-- The transitions of a chunk. -/
def Reception.transitions : Reception → List Transition
  | .processed ts => ts
  | .dropped _ | .crashed _ => []

/-- The transitions of a run. -/
def Received.transitions (taken : Received ω) : List Transition :=
  taken.outcomes.flatMap Reception.transitions

theorem fetches_of_onChunk {b : Bridge ω}
    (goals : b.collaborators = ⟨.current feed.current b.registry b.space, d⟩)
    (calm : ∀ x, ¬ CrashesWith b.collaborators x) (l : Lock) (chunk : List UInt8) (w : ω) :
    let h := b.onChunk l chunk w
    Fetches feed b.registry b.space d w h.outcome.transitions h.world := by
  rw [onChunk_eq]
  have receives := receive_receives b l.machine chunk w
  generalize b.receive l.machine chunk w = h at receives ⊢
  cases receives with
  | dropped unread => exact .nil w
  | crashed read crashed => exact absurd crashed.crashesWith (calm _)
  | processed read processed =>
    rw [goals] at processed
    exact fetches_of_processed processed fun e member =>
      Excerpt.action_mem_of_parseBytes read e (mem_arrange.mp member)

theorem fetches_of_receiveEach {b : Bridge ω}
    (goals : b.collaborators = ⟨.current feed.current b.registry b.space, d⟩)
    (calm : ∀ x, ¬ CrashesWith b.collaborators x) (l : Lock) (chunks : List (List UInt8)) (w : ω) :
    let taken := b.receiveEach l chunks w
    Fetches feed b.registry b.space d w taken.transitions taken.world := by
  refine receiveEach_induction
    (motive := fun _ w taken => Fetches feed b.registry b.space d w taken.transitions taken.world)
    (fun _ w => .nil w) ?_ ?_ l chunks w
  · intro l chunk w h stops
    have last := (fetches_of_onChunk goals calm l chunk w).append (.nil h.world)
    exact last
  · intro l chunk w later h taken
    exact (fetches_of_onChunk goals calm l chunk w).append taken

/-! ## Requests -/

/-- The feed of an agent in the network that `view` finds in the world, with the given memory. -/
structure IsFeed (feed : Feed ω) (a : Agent) (memory : Nat) (view : ω → Http.Network) : Prop where
  current : ∀ w, a.current (view w) = ((feed.current w).1, view (feed.current w).2)
  stream : ∀ sequence w,
    a.stream memory sequence (view w) = ((feed.stream sequence w).1, view (feed.stream sequence w).2)

section Reading

variable {a : Agent} {memory : Nat} {view : ω → Http.Network} {w : ω} {s : Http.Network}

theorem IsFeed.exists_current (reads : IsFeed feed a memory view) {answer : Except BridgeFault String}
    (asked : a.current (view w) = (answer, s)) : ∃ w₁, feed.current w = (answer, w₁) ∧ view w₁ = s := by
  obtain ⟨said, seen⟩ := Prod.mk.inj ((reads.current w).symm.trans asked)
  exact ⟨(feed.current w).2, by rw [← said], seen⟩

theorem IsFeed.exists_stream (reads : IsFeed feed a memory view) {sequence : String}
    {answer : Except BridgeFault Multipart.Split} (asked : a.stream memory sequence (view w) = (answer, s)) :
    ∃ w₁, feed.stream sequence w = (answer, w₁) ∧ view w₁ = s := by
  obtain ⟨said, seen⟩ := Prod.mk.inj ((reads.stream sequence w).symm.trans asked)
  exact ⟨(feed.stream sequence w).2, by rw [← said], seen⟩

end Reading

theorem isFeed_feed (a : Agent) (memory : Nat) : IsFeed (a.feed memory) a memory id where
  current w := (Prod.eta (a.current w)).symm
  stream sequence w := (Prod.eta (a.stream memory sequence w)).symm

/-- What reaches the network on account of a transition: for a request of the machine tool
    one question for the current document, and behind it what the dispatcher may ask for, if it asks
    anything there; nothing for any other transition. -/
def Asks (folder : Http.Target) (own : Http.Request → Prop) (t : Transition)
    (requests : List Http.Request) : Prop :=
  if isRequested t then
    ∃ others, (∀ r ∈ others, own r) ∧ requests = Agent.currentRequest folder :: others
  else requests = []

/-- What a request sends comes in front of what the later transitions send. -/
theorem exists_requests_cons {folder : Http.Target} {own : Http.Request → Prop} {t : Transition}
    {ts : List Transition} {s s₁ : Http.Network} {others : List Http.Request}
    (requested : isRequested t = true) (allowed : ∀ r ∈ others, own r)
    (later : ∃ pieces, List.Forall₂ (Asks folder own) ts pieces ∧
      s₁ = ((s.after [Agent.currentRequest folder]).after others).after pieces.flatten) :
    ∃ pieces, List.Forall₂ (Asks folder own) (t :: ts) pieces ∧ s₁ = s.after pieces.flatten := by
  obtain ⟨pieces, each, whole⟩ := later
  refine ⟨(Agent.currentRequest folder :: others) :: pieces, .cons ?_ each, ?_⟩
  · rw [Asks, if_pos requested]
    exact ⟨others, allowed, rfl⟩
  · rw [whole, ← Http.after_append, ← Http.after_append]
    rfl

theorem Fetches.exists_requests {a : Agent} {memory : Nat} {view : ω → Http.Network}
    {folder : Http.Target} {own : Http.Request → Prop} {w w₁ : ω} {ts : List Transition}
    (fetches : Fetches feed r space d w ts w₁) (reads : IsFeed feed a memory view)
    (serves : (view w).Serves a.rootUrl folder)
    (sends : ∀ goal w, ∃ others, (∀ r ∈ others, own r) ∧
      view (d goal w).world = (view w).after others) :
    ∃ pieces, List.Forall₂ (Asks folder own) ts pieces ∧ view w₁ = (view w).after pieces.flatten := by
  have asks {w w₁ : ω} {answer : Except BridgeFault String} (serves : (view w).Serves a.rootUrl folder)
      (asked : feed.current w = (answer, w₁)) :
      view w₁ = (view w).after [Agent.currentRequest folder] := by
    have seen := reads.current w
    rw [asked] at seen
    rw [← Agent.snd_current serves, seen]
  have runs {goal : Goal} {w w₁ : ω} {outcome : Outcome DispatchFault String} {calls : List SinkCall}
      (ran : d goal w = ⟨outcome, calls, w₁⟩) :
      ∃ others, (∀ r ∈ others, own r) ∧ view w₁ = (view w).after others := by
    have sent := sends goal w
    rwa [ran] at sent
  -- The server that the later transitions find is the same one behind what the first has sent.
  induction fetches with
  | nil w => exact ⟨[], .nil, rfl⟩
  | unasked other _ ih =>
    obtain ⟨pieces, each, whole⟩ := ih serves
    refine ⟨[] :: pieces, .cons ?_ each, whole⟩
    rw [Asks, other]
    rfl
  | unanswered asked _ ih | malformed asked _ _ ih | unusable asked _ _ _ _ ih =>
    have here := asks serves asked
    have later := ih (here ▸ serves.after _)
    rw [here] at later
    have none : ∀ r ∈ ([] : List Http.Request), own r := by simp
    exact exists_requests_cons rfl none later
  | failed asked _ _ ran _ ih | dispatched asked _ _ ran _ ih =>
    have here := asks serves asked
    obtain ⟨others, allowed, behind⟩ := runs ran
    have later := ih (behind ▸ here ▸ (serves.after _).after _)
    rw [behind, here] at later
    exact exists_requests_cons rfl allowed later

end Bridge
end ActionBridge
