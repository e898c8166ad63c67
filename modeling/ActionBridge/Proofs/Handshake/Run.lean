import ActionBridge.Handshake.Machine
import Mathlib.Data.List.Forall2

/-!
# Runs of the handshake

What the machine can do with one element, said once (`Applies`), and what a run of chunks comes
to: its elements are taken one by one, in the order in which each chunk is arranged, either all
of them (`Processed`) or up to the first at which a call crashes (`Crashed`).
-/
namespace ActionBridge.Handshake

variable {ω : Type}

/-! ## One element -/

/-- What can become of an element `e` at a machine `m` in a world `w`. -/
inductive Applies (c : Collaborators ω) (m : Machine) (e : Element) (w : ω) : Applied ω → Prop
  | goalCrashed {x : Crash} {w₁ : ω}
      (active : e.state = .active) (fresh : m.inFlight ≠ some e.handshake)
      (asked : c.goals e.action w = (.crash x, w₁)) :
      Applies c m e w ⟨.error x, m, [.asked e.action (.crash x)], w₁⟩
  | goalFailed {err : DispatchFault} {w₁ : ω}
      (active : e.state = .active) (fresh : m.inFlight ≠ some e.handshake)
      (asked : c.goals e.action w = (.error err, w₁)) :
      Applies c m e w
        ⟨.ok (.dispatchFailed e.action e.handshake err), m, [.asked e.action (.error err)], w₁⟩
  | dispatchCrashed {goal : Goal} {x : Crash} {calls : List SinkCall} {w₁ w₂ : ω}
      (active : e.state = .active) (fresh : m.inFlight ≠ some e.handshake)
      (asked : c.goals e.action w = (.ok goal, w₁))
      (ran : c.dispatcher goal w₁ = ⟨.crash x, calls, w₂⟩) :
      Applies c m e w
        ⟨.error x, m, [.asked e.action (.ok goal), .ran goal (.crash x) calls], w₂⟩
  | dispatchFailed {goal : Goal} {err : DispatchFault} {calls : List SinkCall} {w₁ w₂ : ω}
      (active : e.state = .active) (fresh : m.inFlight ≠ some e.handshake)
      (asked : c.goals e.action w = (.ok goal, w₁))
      (ran : c.dispatcher goal w₁ = ⟨.error err, calls, w₂⟩) :
      Applies c m e w
        ⟨.ok (.dispatchFailed e.action e.handshake err), m,
          [.asked e.action (.ok goal), .ran goal (.error err) calls], w₂⟩
  | dispatched {goal : Goal} {result : String} {calls : List SinkCall} {w₁ w₂ : ω}
      (active : e.state = .active) (fresh : m.inFlight ≠ some e.handshake)
      (asked : c.goals e.action w = (.ok goal, w₁))
      (ran : c.dispatcher goal w₁ = ⟨.ok result, calls, w₂⟩) :
      Applies c m e w
        ⟨.ok (.dispatched e.action e.handshake result m.inFlight), ⟨some e.handshake⟩,
          [.asked e.action (.ok goal), .ran goal (.ok result) calls] ++ announce e.action result,
          w₂⟩
  | completed (ready : e.state = .ready) (current : m.inFlight = some e.handshake) :
      Applies c m e w
        ⟨.ok (.completed e.action e.handshake), ⟨none⟩, announce e.action "READY", w⟩
  | ignored (repeated : e.state = .active → m.inFlight = some e.handshake)
      (stale : e.state = .ready → m.inFlight ≠ some e.handshake) :
      Applies c m e w ⟨.ok (.ignored e.action e.handshake e.state.text), m, [], w⟩

theorem apply_applies (c : Collaborators ω) (m : Machine) (e : Element) (w : ω) :
    Applies c m e w (apply c m e w) := by
  unfold apply
  by_cases requested : e.state = .active ∧ m.inFlight ≠ some e.handshake
  · rw [if_pos requested]
    obtain ⟨active, fresh⟩ := requested
    unfold request
    rcases asked : c.goals e.action w with ⟨goal | err | x, w₁⟩
    · rcases ran : c.dispatcher goal w₁ with ⟨result | err | x, calls, w₂⟩ <;> simp only [ran]
      · exact .dispatched active fresh asked ran
      · exact .dispatchFailed active fresh asked ran
      · exact .dispatchCrashed active fresh asked ran
    · exact .goalFailed active fresh asked
    · exact .goalCrashed active fresh asked
  · rw [if_neg requested]
    by_cases closing : e.state = .ready ∧ m.inFlight = some e.handshake
    · rw [if_pos closing]
      exact .completed closing.1 closing.2
    · rw [if_neg closing]
      exact .ignored (fun active => Decidable.not_not.mp fun fresh => requested ⟨active, fresh⟩)
        (fun ready current => closing ⟨ready, current⟩)

/-- A crash leaves the machine as it was before the element. -/
theorem machine_of_crash {c : Collaborators ω} {m m₁ : Machine} {e : Element} {w w₁ : ω} {x : Crash}
    {events : List Event} (crashed : apply c m e w = ⟨.error x, m₁, events, w₁⟩) : m₁ = m := by
  have applies := crashed ▸ apply_applies c m e w
  cases applies <;> rfl

/-- Whether a transition is one that an element can have. -/
def Answers (e : Element) : Transition → Prop
  | .dispatched action handshake _ _ =>
    e.state = .active ∧ action = e.action ∧ handshake = e.handshake
  | .completed action handshake =>
    e.state = .ready ∧ action = e.action ∧ handshake = e.handshake
  | .dispatchFailed action handshake _ =>
    e.state = .active ∧ action = e.action ∧ handshake = e.handshake
  | .ignored action handshake state =>
    action = e.action ∧ handshake = e.handshake ∧ state = e.state.text

/-- Whether some call on the collaborators crashes like this. -/
def CrashesWith (c : Collaborators ω) (x : Crash) : Prop :=
  (∃ action w, (c.goals action w).1 = .crash x) ∨ ∃ goal w, (c.dispatcher goal w).outcome = .crash x

/-! ## Lists of elements -/

/-- Elements are processed one by one, each with a transition. -/
inductive Processed (c : Collaborators ω) :
    Machine → ω → List Element → List Transition → List Event → Machine → ω → Prop
  | nil (m : Machine) (w : ω) : Processed c m w [] [] [] m w
  | cons {m m₁ m₂ : Machine} {w w₁ w₂ : ω} {e : Element} {es : List Element} {t : Transition}
      {ts : List Transition} {events later : List Event}
      (head : apply c m e w = ⟨.ok t, m₁, events, w₁⟩)
      (tail : Processed c m₁ w₁ es ts later m₂ w₂) :
      Processed c m w (e :: es) (t :: ts) (events ++ later) m₂ w₂

/-- Elements are processed up to one at which a call crashes. -/
inductive Crashed (c : Collaborators ω) :
    Machine → ω → List Element → Crash → List Event → Machine → ω → Prop
  | here {m m₁ : Machine} {w w₁ : ω} {e : Element} {es : List Element} {x : Crash}
      {events : List Event} (head : apply c m e w = ⟨.error x, m₁, events, w₁⟩) :
      Crashed c m w (e :: es) x events m₁ w₁
  | later {m m₁ m₂ : Machine} {w w₁ w₂ : ω} {e : Element} {es : List Element} {t : Transition}
      {x : Crash} {events later : List Event}
      (head : apply c m e w = ⟨.ok t, m₁, events, w₁⟩)
      (tail : Crashed c m₁ w₁ es x later m₂ w₂) :
      Crashed c m w (e :: es) x (events ++ later) m₂ w₂

variable {c : Collaborators ω} {m m₁ m₂ : Machine} {w w₁ w₂ : ω} {es es₁ : List Element}
  {ts ts₁ : List Transition} {events later : List Event} {x : Crash}

theorem Processed.append (first : Processed c m w es ts events m₁ w₁)
    (second : Processed c m₁ w₁ es₁ ts₁ later m₂ w₂) :
    Processed c m w (es ++ es₁) (ts ++ ts₁) (events ++ later) m₂ w₂ := by
  induction first with
  | nil => exact second
  | cons head _ ih =>
    rw [List.append_assoc]
    exact .cons head (ih second)

theorem Processed.append_crashed (first : Processed c m w es ts events m₁ w₁)
    (second : Crashed c m₁ w₁ es₁ x later m₂ w₂) :
    Crashed c m w (es ++ es₁) x (events ++ later) m₂ w₂ := by
  induction first with
  | nil => exact second
  | cons head _ ih =>
    rw [List.append_assoc]
    exact .later head (ih second)

/-- Processing elements one by one comes to this and to nothing else. -/
theorem Processed.applyAll_eq (processed : Processed c m w es ts events m₁ w₁) :
    applyAll c m es w = ⟨.ok ts, m₁, events, w₁⟩ := by
  induction processed with
  | nil m w => rfl
  | cons head _ ih =>
    simp only [applyAll, head, ih]
    rfl

/-- Every element has a transition. -/
theorem Processed.length_eq (processed : Processed c m w es ts events m₁ w₁) :
    ts.length = es.length := by
  induction processed with
  | nil => rfl
  | cons _ _ ih => rw [List.length_cons, List.length_cons, ih]

theorem Processed.answers (processed : Processed c m w es ts events m₁ w₁) :
    List.Forall₂ Answers es ts := by
  induction processed with
  | nil => exact .nil
  | @cons m _ _ w _ _ e _ _ _ _ _ head _ ih =>
    refine .cons ?_ ih
    have applies := head ▸ apply_applies c m e w
    cases applies with
    | goalFailed active fresh asked => exact ⟨active, rfl, rfl⟩
    | dispatchFailed active fresh asked ran => exact ⟨active, rfl, rfl⟩
    | dispatched active fresh asked ran => exact ⟨active, rfl, rfl⟩
    | completed ready current => exact ⟨ready, rfl, rfl⟩
    | ignored repeated stale => exact ⟨rfl, rfl, rfl⟩

theorem Crashed.crashesWith (crashed : Crashed c m w es x events m₁ w₁) : CrashesWith c x := by
  induction crashed with
  | @here m _ w _ e _ _ _ head =>
    have applies := head ▸ apply_applies c m e w
    cases applies with
    | goalCrashed active fresh asked => exact .inl ⟨_, _, congrArg Prod.fst asked⟩
    | dispatchCrashed active fresh asked ran => exact .inr ⟨_, _, congrArg Dispatched.outcome ran⟩
  | later _ _ ih => exact ih

/-- A crash comes at an element behind others that are processed. -/
theorem Crashed.split (crashed : Crashed c m w es x events m₁ w₁) :
    ∃ before e after ts done last m₂ w₂, es = before ++ e :: after ∧
      Processed c m w before ts done m₂ w₂ ∧ apply c m₂ e w₂ = ⟨.error x, m₁, last, w₁⟩ ∧
      events = done ++ last := by
  induction crashed with
  | @here m _ w _ e es _ events head =>
    exact ⟨[], e, es, [], [], events, m, w, rfl, .nil m w, head, rfl⟩
  | @later _ _ _ _ _ _ e _ t _ events _ head _ ih =>
    obtain ⟨before, e₁, after, ts, done, last, m₂, w₂, rfl, processed, crashes, rfl⟩ := ih
    exact ⟨e :: before, e₁, after, t :: ts, events ++ done, last, m₂, w₂, rfl,
      .cons head processed, crashes, (List.append_assoc ..).symm⟩

/-- The two ways in which a list of elements can come to its end. -/
theorem applyAll_cases (c : Collaborators ω) (m : Machine) (es : List Element) (w : ω) :
    let s := applyAll c m es w
    (∃ ts, s.result = .ok ts ∧ Processed c m w es ts s.events s.machine s.world) ∨
      ∃ x, s.result = .error x ∧ Crashed c m w es x s.events s.machine s.world := by
  induction es generalizing m w with
  | nil => exact .inl ⟨[], rfl, .nil m w⟩
  | cons e es ih =>
    rcases head : apply c m e w with ⟨x | t, m₁, events, w₁⟩
    · exact .inr ⟨x, by simp [applyAll, head], by simpa [applyAll, head] using Crashed.here head⟩
    · simp only [applyAll, head]
      rcases ih m₁ w₁ with ⟨ts, ended, processed⟩ | ⟨x, ended, crashed⟩
      · exact .inl ⟨t :: ts, by rw [ended]; rfl, .cons head processed⟩
      · exact .inr ⟨x, by rw [ended]; rfl, .later head crashed⟩

/-! ## Runs -/

/-- What became of the chunks of a run. -/
structure Course (ω : Type) where
  /-- the transitions of each chunk -/
  result : Except Crash (List (List Transition))
  machine : Machine
  events : List Event
  world : ω

/-- Processes chunks one after the other, up to the first at which a call crashes. -/
def stepAll (c : Collaborators ω) (m : Machine) : List (List Element) → ω → Course ω
  | [], w => ⟨.ok [], m, [], w⟩
  | es :: chunks, w =>
    let s := step c m es w
    match s.result with
    | .error x => ⟨.error x, s.machine, s.events, s.world⟩
    | .ok ts =>
      let later := stepAll c s.machine chunks s.world
      ⟨later.result.map (ts :: ·), later.machine, s.events ++ later.events, later.world⟩

/-- The elements of a run in the order in which they are processed, those of the chunk at which
    a call crashes included. -/
def runOrder (c : Collaborators ω) (m : Machine) : List (List Element) → ω → List Element
  | [], _ => []
  | es :: chunks, w =>
    let s := step c m es w
    m.arrange es ++
      match s.result with
      | .error _ => []
      | .ok _ => runOrder c s.machine chunks s.world

theorem arrange_perm (m : Machine) (es : List Element) : (m.arrange es).Perm es := by
  unfold Machine.arrange
  split
  · split
    · exact .refl _
    · exact List.reverse_perm _
  · exact .refl _

theorem length_arrange (m : Machine) (es : List Element) : (m.arrange es).length = es.length :=
  (arrange_perm m es).length_eq

/-- The two ways in which a run can come to its end. A run that returns has one transition for
    each element of each chunk. -/
theorem stepAll_cases (c : Collaborators ω) (m : Machine) (chunks : List (List Element)) (w : ω) :
    let r := stepAll c m chunks w
    (∃ tss, r.result = .ok tss ∧ tss.map List.length = chunks.map List.length ∧
        Processed c m w (runOrder c m chunks w) tss.flatten r.events r.machine r.world) ∨
      ∃ x, r.result = .error x ∧
        Crashed c m w (runOrder c m chunks w) x r.events r.machine r.world := by
  induction chunks generalizing m w with
  | nil => exact .inl ⟨[], rfl, rfl, .nil m w⟩
  | cons es chunks ih =>
    have stepped : step c m es w = applyAll c m (m.arrange es) w := rfl
    simp only [stepAll, runOrder, stepped]
    rcases applyAll_cases c m (m.arrange es) w with ⟨ts, ended, processed⟩ | ⟨x, ended, crashed⟩
    · simp only [ended]
      have fits : ts.length = es.length := by rw [processed.length_eq, length_arrange]
      rcases ih (applyAll c m (m.arrange es) w).machine (applyAll c m (m.arrange es) w).world with
        ⟨tss, ended', lengths, processed'⟩ | ⟨x, ended', crashed⟩
      · refine .inl ⟨ts :: tss, by rw [ended']; rfl, ?_, processed.append processed'⟩
        rw [List.map_cons, List.map_cons, fits, lengths]
      · exact .inr ⟨x, by rw [ended']; rfl, processed.append_crashed crashed⟩
    · simp only [ended, List.append_nil]
      exact .inr ⟨x, rfl, crashed⟩

end ActionBridge.Handshake
