import ActionBridge.Proofs.Handshake.Run
import Mathlib.Data.Finset.Option

/-!
# One handshake at a time

The transitions of a run are those of one slot that holds the handshake in flight: a dispatch
fills it and says what it held, a completion empties it, and nothing else touches it
(`replay`). Hence handshakes never overlap, are not dispatched anew while they are open, and
are not completed once they are over.
-/
namespace ActionBridge.Handshake

/-! ## The slot -/

/-- What a transition makes of the slot, if it can stand there at all. -/
def Transition.replay (slot : Option String) : Transition → Option (Option String)
  | .dispatched _ handshake _ superseded =>
    if superseded = slot ∧ slot ≠ some handshake then some (some handshake) else none
  | .completed _ handshake => if slot = some handshake then some none else none
  | .dispatchFailed .. | .ignored .. => some slot

/-- What transitions make of the slot, one after the other. -/
def replay (slot : Option String) (ts : List Transition) : Option (Option String) :=
  ts.foldlM Transition.replay slot

theorem replay_cons (slot : Option String) (t : Transition) (ts : List Transition) :
    replay slot (t :: ts) = (t.replay slot).bind (replay · ts) := rfl

theorem replay_append (slot : Option String) (ts ts₁ : List Transition) :
    replay slot (ts ++ ts₁) = (replay slot ts).bind (replay · ts₁) :=
  List.foldlM_append

/-- The slot holds what the machine has in flight. -/
theorem Processed.replay {ω : Type} {c : Collaborators ω} {m m₁ : Machine} {w w₁ : ω}
    {es : List Element} {ts : List Transition} {events : List Event}
    (processed : Processed c m w es ts events m₁ w₁) :
    Handshake.replay m.inFlight ts = some m₁.inFlight := by
  induction processed with
  | nil m w => rfl
  | @cons m m₁ m₂ w w₁ w₂ e es t ts events later head tail ih =>
    have applies := head ▸ apply_applies c m e w
    rw [replay_cons]
    cases applies with
    | goalFailed active fresh asked => exact ih
    | dispatchFailed active fresh asked ran => exact ih
    | dispatched active fresh asked ran =>
      rw [Transition.replay, if_pos ⟨rfl, fresh⟩]
      exact ih
    | completed ready current =>
      rw [Transition.replay, if_pos current]
      exact ih
    | ignored repeated stale => exact ih

/-! ## Open handshakes -/

/-- Whether a transition begins a handshake. -/
def Transition.Opens (handshake : String) : Transition → Prop
  | .dispatched _ h _ _ => h = handshake
  | _ => False

/-- Whether a transition ends a handshake, completed or superseded by another one. -/
def Transition.Closes (handshake : String) : Transition → Prop
  | .dispatched _ _ _ superseded => superseded = some handshake
  | .completed _ h => h = handshake
  | _ => False

/-- The open handshakes after one more transition. -/
def Transition.track (opened : Finset String) : Transition → Finset String
  | .dispatched _ handshake _ superseded =>
    insert handshake (superseded.elim opened opened.erase)
  | .completed _ handshake => opened.erase handshake
  | .dispatchFailed .. | .ignored .. => opened

/-- The handshakes that transitions leave open. -/
def openAfter (ts : List Transition) : Finset String := ts.foldl Transition.track ∅

theorem track_toFinset {slot slot₁ : Option String} {t : Transition}
    (replays : t.replay slot = some slot₁) : t.track slot.toFinset = slot₁.toFinset := by
  cases t with
  | dispatched action handshake result superseded =>
    obtain ⟨⟨rfl, _⟩, rfl⟩ : (superseded = slot ∧ slot ≠ some handshake) ∧ some handshake = slot₁ := by
      simpa [Transition.replay] using replays
    cases superseded <;> simp [Transition.track]
  | completed action handshake =>
    obtain ⟨rfl, rfl⟩ : slot = some handshake ∧ none = slot₁ := by
      simpa [Transition.replay] using replays
    simp [Transition.track]
  | dispatchFailed action handshake error =>
    obtain rfl : slot = slot₁ := by simpa [Transition.replay] using replays
    rfl
  | ignored action handshake state =>
    obtain rfl : slot = slot₁ := by simpa [Transition.replay] using replays
    rfl

/-- What is open is what the slot holds. -/
theorem openAfter_eq {ts : List Transition} {slot : Option String}
    (replays : replay none ts = some slot) : openAfter ts = slot.toFinset := by
  have tracked : ∀ slot₀ slot, replay slot₀ ts = some slot →
      ts.foldl Transition.track slot₀.toFinset = slot.toFinset := by
    clear replays slot
    induction ts with
    | nil =>
      intro slot₀ slot replays
      obtain rfl : slot₀ = slot := by simpa [replay] using replays
      rfl
    | cons t ts ih =>
      intro slot₀ slot replays
      obtain ⟨slot₁, head, tail⟩ := Option.bind_eq_some_iff.mp replays
      rw [List.foldl_cons, track_toFinset head]
      exact ih slot₁ slot tail
  exact tracked none slot replays

/-- An open handshake stays open until a transition closes it. -/
theorem replay_some_of_not_closes {handshake : String} {slot : Option String}
    {ts : List Transition} (replays : replay (some handshake) ts = some slot)
    (kept : ∀ t ∈ ts, ¬ t.Closes handshake) : slot = some handshake := by
  induction ts with
  | nil => simpa [replay] using replays.symm
  | cons t ts ih =>
    obtain ⟨slot₁, head, tail⟩ := Option.bind_eq_some_iff.mp replays
    have keeps : ¬ t.Closes handshake := kept t List.mem_cons_self
    have same : slot₁ = some handshake := by
      cases t with
      | dispatched action h result superseded =>
        obtain ⟨⟨named, _⟩, _⟩ : (superseded = some handshake ∧ handshake ≠ h) ∧ some h = slot₁ := by
          simpa [Transition.replay] using head
        exact absurd named keeps
      | completed action h =>
        obtain ⟨named, _⟩ : handshake = h ∧ none = slot₁ := by
          simpa [Transition.replay] using head
        exact absurd named.symm keeps
      | dispatchFailed action h error => simpa [Transition.replay] using head.symm
      | ignored action h state => simpa [Transition.replay] using head.symm
    subst same
    exact ih tail fun u member => kept u (List.mem_cons_of_mem _ member)

/-- A handshake that is not open stays so until a transition opens it. -/
theorem replay_ne_of_not_opens {handshake : String} {slot₀ slot : Option String}
    {ts : List Transition} (replays : replay slot₀ ts = some slot)
    (other : slot₀ ≠ some handshake) (unopened : ∀ t ∈ ts, ¬ t.Opens handshake) :
    slot ≠ some handshake := by
  induction ts generalizing slot₀ with
  | nil =>
    obtain rfl : slot₀ = slot := by simpa [replay] using replays
    exact other
  | cons t ts ih =>
    obtain ⟨slot₁, head, tail⟩ := Option.bind_eq_some_iff.mp replays
    have opensNot : ¬ t.Opens handshake := unopened t List.mem_cons_self
    refine ih tail ?_ fun u member => unopened u (List.mem_cons_of_mem _ member)
    cases t with
    | dispatched action h result superseded =>
      obtain ⟨_, rfl⟩ : (superseded = slot₀ ∧ slot₀ ≠ some h) ∧ some h = slot₁ := by
        simpa [Transition.replay] using head
      exact fun same => opensNot (Option.some.inj same)
    | completed action h =>
      obtain ⟨_, rfl⟩ : slot₀ = some h ∧ none = slot₁ := by
        simpa [Transition.replay] using head
      exact nofun
    | dispatchFailed action h error =>
      obtain rfl : slot₀ = slot₁ := by simpa [Transition.replay] using head
      exact other
    | ignored action h state =>
      obtain rfl : slot₀ = slot₁ := by simpa [Transition.replay] using head
      exact other

/-! ## The transitions of a run -/

/-- Transitions that keep to one slot, which is empty at first and `slot` in the end. -/
structure SingleSlot (ts : List Transition) (slot : Option String) : Prop where
  /-- each transition finds the slot as it says -/
  replays : replay none ts = some slot
  /-- handshakes do not overlap -/
  card_openAfter_le : ∀ before after, ts = before ++ after → (openAfter before).card ≤ 1
  /-- a handshake is over before it is dispatched again -/
  separated : ∀ handshake before first between second after,
    ts = before ++ first :: between ++ second :: after →
      first.Opens handshake → second.Opens handshake → ∃ t ∈ between, t.Closes handshake
  /-- a handshake that is over is not completed unless it is dispatched again -/
  stale : ∀ handshake before closing between action after,
    ts = before ++ closing :: between ++ .completed action handshake :: after →
      closing.Closes handshake → ∃ t ∈ between, t.Opens handshake

/-- A transition that opens a handshake finds the slot without it. -/
theorem Transition.Opens.replay_eq {handshake : String} {t : Transition}
    {slot slot₁ : Option String} (opens : t.Opens handshake) (replays : t.replay slot = some slot₁) :
    slot ≠ some handshake ∧ slot₁ = some handshake := by
  cases t with
  | dispatched action h result superseded =>
    obtain rfl : h = handshake := opens
    obtain ⟨⟨_, fresh⟩, rfl⟩ : (superseded = slot ∧ slot ≠ some h) ∧ some h = slot₁ := by
      simpa [Transition.replay] using replays
    exact ⟨fresh, rfl⟩
  | completed | dispatchFailed | ignored => exact opens.elim

/-- A transition that closes a handshake leaves the slot without it. -/
theorem Transition.Closes.replay_ne {handshake : String} {t : Transition}
    {slot slot₁ : Option String} (closes : t.Closes handshake) (replays : t.replay slot = some slot₁) :
    slot₁ ≠ some handshake := by
  cases t with
  | dispatched action h result superseded =>
    obtain rfl : superseded = some handshake := closes
    obtain ⟨⟨rfl, fresh⟩, rfl⟩ : (some handshake = slot ∧ slot ≠ some h) ∧ some h = slot₁ := by
      simpa [Transition.replay] using replays
    exact fresh.symm
  | completed action h =>
    obtain ⟨_, rfl⟩ : slot = some h ∧ none = slot₁ := by
      simpa [Transition.replay] using replays
    exact nofun
  | dispatchFailed | ignored => exact closes.elim

/-- The slot at a transition in the middle, and behind it. -/
theorem replay_middle {slot₀ slot : Option String} {before after : List Transition} {t : Transition}
    (replays : replay slot₀ (before ++ t :: after) = some slot) :
    ∃ slot₁ slot₂, replay slot₀ before = some slot₁ ∧ t.replay slot₁ = some slot₂ ∧
      replay slot₂ after = some slot := by
  rw [replay_append] at replays
  obtain ⟨slot₁, first, rest⟩ := Option.bind_eq_some_iff.mp replays
  obtain ⟨slot₂, here, last⟩ := Option.bind_eq_some_iff.mp rest
  exact ⟨slot₁, slot₂, first, here, last⟩

theorem SingleSlot.of_replay {ts : List Transition} {slot : Option String}
    (replays : replay none ts = some slot) : SingleSlot ts slot where
  replays := replays
  card_openAfter_le := by
    rintro before after rfl
    rw [replay_append] at replays
    obtain ⟨slot₁, first, _⟩ := Option.bind_eq_some_iff.mp replays
    rw [openAfter_eq first, Option.card_toFinset]
    cases slot₁ <;> simp
  separated := by
    rintro handshake before first between second after rfl opens₁ opens₂
    obtain ⟨slot₁, slot₂, reached, here, _⟩ := replay_middle replays
    obtain ⟨_, slot₀, _, begins, inside⟩ := replay_middle reached
    by_contra none
    push Not at none
    -- without a transition that closes it the first dispatch still holds the slot
    obtain ⟨_, rfl⟩ := opens₁.replay_eq begins
    exact (opens₂.replay_eq here).1 (replay_some_of_not_closes inside none)
  stale := by
    rintro handshake before closing between action after rfl closes
    obtain ⟨slot₁, slot₂, reached, here, _⟩ := replay_middle replays
    obtain ⟨_, slot₀, _, ends, inside⟩ := replay_middle reached
    by_contra none
    push Not at none
    have vacant := replay_ne_of_not_opens inside (closes.replay_ne ends) none
    obtain ⟨current, _⟩ : slot₁ = some handshake ∧ Option.none = slot₂ := by
      simpa [Transition.replay] using here
    exact vacant current

/-- Every run that starts with no handshake in flight keeps to one slot, which is the handshake
    in flight in the end, with one transition for each element of each chunk. Only a collaborator
    that crashes keeps a run from returning, and then the same holds of the elements before. -/
theorem stepAll_singleSlot {ω : Type} (c : Collaborators ω) (chunks : List (List Element)) (w : ω) :
    let r := stepAll c {} chunks w
    let order := runOrder c {} chunks w
    (∃ tss, r.result = .ok tss ∧ SingleSlot tss.flatten r.machine.inFlight ∧
        tss.map List.length = chunks.map List.length ∧ List.Forall₂ Answers order tss.flatten) ∨
      ∃ x before e after ts, r.result = .error x ∧ CrashesWith c x ∧ order = before ++ e :: after ∧
        SingleSlot ts r.machine.inFlight ∧ List.Forall₂ Answers before ts := by
  intro r order
  rcases stepAll_cases c {} chunks w with ⟨tss, returned, lengths, processed⟩ | ⟨x, ended, crashed⟩
  · exact .inl ⟨tss, returned, .of_replay processed.replay, lengths, processed.answers⟩
  · obtain ⟨before, e, after, ts, _, _, _, _, split, processed, crashes, _⟩ := crashed.split
    refine .inr ⟨x, before, e, after, ts, ended, crashed.crashesWith, split, ?_, processed.answers⟩
    rw [machine_of_crash crashes]
    exact .of_replay processed.replay

end ActionBridge.Handshake
