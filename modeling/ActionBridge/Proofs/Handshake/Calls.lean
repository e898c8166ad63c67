import ActionBridge.Proofs.Handshake.Run
import ActionBridge.Proofs.Transactions

/-!
# What the machine calls

The calls on the goal source, the dispatcher and the sink are told by the transitions alone
(`CallsAll`): a dispatch asks for a goal, runs it and announces the result, a completion
announces `READY`, a failure calls up to the failing one, and nothing else calls at all.
-/
namespace ActionBridge.Handshake

variable {ω : Type}

/-! ## One transition -/

/-- The calls of a transition, from the world in which the element is taken to the one that it
    leaves. -/
inductive Calls (c : Collaborators ω) (w : ω) : Transition → List Event → ω → Prop
  | dispatched {action handshake result : String} {superseded : Option String} {goal : Goal}
      {calls : List SinkCall} {w₁ w₂ : ω}
      (asked : c.goals action w = (.ok goal, w₁))
      (ran : c.dispatcher goal w₁ = ⟨.ok result, calls, w₂⟩) :
      Calls c w (.dispatched action handshake result superseded)
        [.asked action (.ok goal), .ran goal (.ok result) calls,
          .told .begin, .told (.set (DataItem.name action) result), .told .complete] w₂
  | goalFailed {action handshake : String} {error : DispatchFault} {w₁ : ω}
      (asked : c.goals action w = (.error error, w₁)) :
      Calls c w (.dispatchFailed action handshake error) [.asked action (.error error)] w₁
  | dispatchFailed {action handshake : String} {error : DispatchFault} {goal : Goal}
      {calls : List SinkCall} {w₁ w₂ : ω}
      (asked : c.goals action w = (.ok goal, w₁))
      (ran : c.dispatcher goal w₁ = ⟨.error error, calls, w₂⟩) :
      Calls c w (.dispatchFailed action handshake error)
        [.asked action (.ok goal), .ran goal (.error error) calls] w₂
  | completed {action handshake : String} :
      Calls c w (.completed action handshake)
        [.told .begin, .told (.set (DataItem.name action) "READY"), .told .complete] w
  | ignored {action handshake state : String} : Calls c w (.ignored action handshake state) [] w

/-- The calls for an action of which the last one crashes. -/
inductive CrashCalls (c : Collaborators ω) (w : ω) (action : String) (x : Crash) :
    List Event → ω → Prop
  | goal {w₁ : ω} (asked : c.goals action w = (.crash x, w₁)) :
      CrashCalls c w action x [.asked action (.crash x)] w₁
  | dispatch {goal : Goal} {calls : List SinkCall} {w₁ w₂ : ω}
      (asked : c.goals action w = (.ok goal, w₁))
      (ran : c.dispatcher goal w₁ = ⟨.crash x, calls, w₂⟩) :
      CrashCalls c w action x [.asked action (.ok goal), .ran goal (.crash x) calls] w₂

variable {c : Collaborators ω} {m m₁ : Machine} {e : Element} {w w₁ w₂ : ω} {t : Transition}
  {x : Crash} {events events₁ : List Event}

theorem calls_of_apply (applied : apply c m e w = ⟨.ok t, m₁, events, w₁⟩) :
    Calls c w t events w₁ := by
  have applies := applied ▸ apply_applies c m e w
  cases applies with
  | goalFailed active fresh asked => exact .goalFailed asked
  | dispatchFailed active fresh asked ran => exact .dispatchFailed asked ran
  | dispatched active fresh asked ran => exact .dispatched asked ran
  | completed ready current => exact .completed
  | ignored repeated stale => exact .ignored

theorem crashCalls_of_apply (crashed : apply c m e w = ⟨.error x, m₁, events, w₁⟩) :
    CrashCalls c w e.action x events w₁ := by
  have applies := crashed ▸ apply_applies c m e w
  cases applies with
  | goalCrashed active fresh asked => exact .goal asked
  | dispatchCrashed active fresh asked ran => exact .dispatch asked ran

/-- A transition has its calls in one way only. -/
theorem Calls.unique (here : Calls c w t events w₁) (there : Calls c w t events₁ w₂) :
    events = events₁ ∧ w₁ = w₂ := by
  cases here with
  | dispatched asked ran =>
    cases there with
    | dispatched asked₁ ran₁ =>
      obtain ⟨⟨rfl⟩, rfl⟩ := Prod.mk.inj (asked.symm.trans asked₁)
      obtain ⟨_, rfl, rfl⟩ := Dispatched.mk.inj (ran.symm.trans ran₁)
      exact ⟨rfl, rfl⟩
  | goalFailed asked =>
    cases there with
    | goalFailed asked₁ =>
      obtain ⟨_, rfl⟩ := Prod.mk.inj (asked.symm.trans asked₁)
      exact ⟨rfl, rfl⟩
    | dispatchFailed asked₁ _ => exact nomatch (Prod.mk.inj (asked.symm.trans asked₁)).1
  | dispatchFailed asked ran =>
    cases there with
    | goalFailed asked₁ => exact nomatch (Prod.mk.inj (asked.symm.trans asked₁)).1
    | dispatchFailed asked₁ ran₁ =>
      obtain ⟨⟨rfl⟩, rfl⟩ := Prod.mk.inj (asked.symm.trans asked₁)
      obtain ⟨_, rfl, rfl⟩ := Dispatched.mk.inj (ran.symm.trans ran₁)
      exact ⟨rfl, rfl⟩
  | completed => cases there; exact ⟨rfl, rfl⟩
  | ignored => cases there; exact ⟨rfl, rfl⟩

/-! ## All transitions -/

/-- The calls of transitions, one after the other. -/
inductive CallsAll (c : Collaborators ω) : ω → List Transition → List Event → ω → Prop
  | nil (w : ω) : CallsAll c w [] [] w
  | cons {w w₁ w₂ : ω} {t : Transition} {ts : List Transition} {events later : List Event}
      (head : Calls c w t events w₁) (tail : CallsAll c w₁ ts later w₂) :
      CallsAll c w (t :: ts) (events ++ later) w₂

variable {es : List Element} {ts : List Transition}

theorem Processed.callsAll (processed : Processed c m w es ts events m₁ w₁) :
    CallsAll c w ts events w₁ := by
  induction processed with
  | nil m w => exact .nil w
  | cons head _ ih => exact .cons (calls_of_apply head) ih

theorem CallsAll.unique (here : CallsAll c w ts events w₁) (there : CallsAll c w ts events₁ w₂) :
    events = events₁ ∧ w₁ = w₂ := by
  induction here generalizing events₁ w₂ with
  | nil w => cases there; exact ⟨rfl, rfl⟩
  | cons head _ ih =>
    cases there with
    | cons head₁ tail₁ =>
      obtain ⟨rfl, rfl⟩ := head.unique head₁
      obtain ⟨rfl, rfl⟩ := ih tail₁
      exact ⟨rfl, rfl⟩

/-! ## The sink -/

theorem sinkLog_append (events events₁ : List Event) :
    sinkLog (events ++ events₁) = sinkLog events ++ sinkLog events₁ := List.flatMap_append

theorem Calls.transactional (calls : Calls c w t events w₁)
    (whole : ∀ goal w, Transactional (c.dispatcher goal w).calls) : Transactional (sinkLog events) := by
  cases calls with
  | @dispatched action handshake result superseded goal calls w₁ w₂ asked ran =>
    have dispatch : Transactional calls := by simpa [ran] using whole goal w₁
    exact dispatch.append (transactional_transaction (DataItem.name action) result)
  | goalFailed asked => exact transactional_nil
  | @dispatchFailed action handshake error goal calls w₁ w₂ asked ran =>
    have dispatch : Transactional calls := by simpa [ran] using whole goal w₁
    exact dispatch.append transactional_nil
  | @completed action handshake => exact transactional_transaction (DataItem.name action) "READY"
  | ignored => exact transactional_nil

theorem CrashCalls.transactional {action : String} (calls : CrashCalls c w action x events w₁)
    (whole : ∀ goal w, Transactional (c.dispatcher goal w).calls) : Transactional (sinkLog events) := by
  cases calls with
  | goal asked => exact transactional_nil
  | @dispatch goal calls w₁ w₂ asked ran =>
    have dispatch : Transactional calls := by simpa [ran] using whole goal w₁
    exact dispatch.append transactional_nil

theorem CallsAll.transactional (calls : CallsAll c w ts events w₁)
    (whole : ∀ goal w, Transactional (c.dispatcher goal w).calls) : Transactional (sinkLog events) := by
  induction calls with
  | nil w => exact transactional_nil
  | cons head _ ih =>
    rw [sinkLog_append]
    exact (head.transactional whole).append ih

theorem Crashed.transactional (crashed : Crashed c m w es x events m₁ w₁)
    (whole : ∀ goal w, Transactional (c.dispatcher goal w).calls) : Transactional (sinkLog events) := by
  obtain ⟨_, _, _, _, _, _, _, _, _, processed, crashes, split⟩ := crashed.split
  rw [split, sinkLog_append]
  exact (processed.callsAll.transactional whole).append
    ((crashCalls_of_apply crashes).transactional whole)

/-- However a run ends, what the machine and a dispatcher of whole transactions tell the sink is
    whole transactions. -/
theorem transactional_stepAll (whole : ∀ goal w, Transactional (c.dispatcher goal w).calls)
    (m : Machine) (chunks : List (List Element)) (w : ω) :
    Transactional (sinkLog (stepAll c m chunks w).events) := by
  rcases stepAll_cases c m chunks w with ⟨tss, _, _, processed⟩ | ⟨x, _, crashed⟩
  · exact processed.callsAll.transactional whole
  · exact crashed.transactional whole

/-! ## The calls of a run -/

/-- The calls of a course from the world `w` on are those of its transitions, and only those. If a
    call crashes it is the last one. -/
def TellsCalls (c : Collaborators ω) (w : ω) (order : List Element) (r : Course ω) : Prop :=
  match r.result with
  | .ok tss =>
    List.Forall₂ Answers order tss.flatten ∧
      ∀ events w₁, CallsAll c w tss.flatten events w₁ ↔ events = r.events ∧ w₁ = r.world
  | .error x =>
    ∃ before e after ts done last w₁, order = before ++ e :: after ∧
      List.Forall₂ Answers before ts ∧ CallsAll c w ts done w₁ ∧
      CrashCalls c w₁ e.action x last r.world ∧ r.events = done ++ last

theorem stepAll_tellsCalls (c : Collaborators ω) (m : Machine) (chunks : List (List Element)) (w : ω) :
    TellsCalls c w (runOrder c m chunks w) (stepAll c m chunks w) := by
  unfold TellsCalls
  rcases stepAll_cases c m chunks w with ⟨tss, returned, _, processed⟩ | ⟨x, ended, crashed⟩
  · rw [returned]
    refine ⟨processed.answers, fun events w₁ => ⟨fun calls => calls.unique processed.callsAll, ?_⟩⟩
    rintro ⟨rfl, rfl⟩
    exact processed.callsAll
  · rw [ended]
    obtain ⟨before, e, after, ts, done, last, m₂, w₂, order, processed, crashes, split⟩ := crashed.split
    exact ⟨before, e, after, ts, done, last, w₂, order, processed.answers, processed.callsAll,
      crashCalls_of_apply crashes, split⟩

/-- The calls of every run are told by its transitions, element by element as they are processed.
    With the dispatcher of a registry, all that the sink is told is whole transactions. -/
theorem stepAll_calls {σ : Type} (c : Collaborators ω) (connector : Connector ω σ) (r : Registry)
    (announceActive : Bool) (m : Machine) (chunks : List (List Element)) (w : ω) :
    TellsCalls c w (runOrder c m chunks w) (stepAll c m chunks w) ∧
      let log := sinkLog
        (stepAll ⟨c.goals, dispatchAction connector r announceActive⟩ m chunks w).events
      Transactional log ∧ Bracketed log := by
  refine ⟨stepAll_tellsCalls c m chunks w, ?_⟩
  have whole := transactional_stepAll (c := ⟨c.goals, dispatchAction connector r announceActive⟩)
    (transactional_dispatchAction connector r announceActive) m chunks w
  exact ⟨whole, whole.brackets⟩

end ActionBridge.Handshake
