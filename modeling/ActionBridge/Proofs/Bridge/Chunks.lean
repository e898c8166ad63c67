import ActionBridge.Bridge.Follow
import ActionBridge.Proofs.Handshake.Run

/-!
# Chunk after chunk

What can become of one chunk, said once (`Receives`), and what a run of chunks comes to if its caller
catches every panic and goes on (`receiveEach`). Such a run has no memory but the lock and the world
(`receiveEach_append`), and where nothing crashes it is the one that stops at crashes
(`receiveAll_of_calm`).
-/
namespace ActionBridge.Bridge
open Handshake

variable {ω : Type}

/-! ## One chunk -/

/-- What can become of a chunk at a machine `m` in a world `w`. -/
inductive Receives (b : Bridge ω) (m : Machine) (chunk : List UInt8) (w : ω) : Handled ω → Prop
  | dropped {fault : ParseFault} (unread : Excerpt.parseBytes b.space b.watched chunk = .error fault) :
      Receives b m chunk w ⟨.dropped fault, m, [], w⟩
  | processed {excerpt : Excerpt} {ts : List Transition} {events : List Event} {m₁ : Machine} {w₁ : ω}
      (read : Excerpt.parseBytes b.space b.watched chunk = .ok excerpt)
      (processed : Processed b.collaborators m w (m.arrange excerpt.elements) ts events m₁ w₁) :
      Receives b m chunk w ⟨.processed ts, m₁, events, w₁⟩
  | crashed {excerpt : Excerpt} {x : Crash} {events : List Event} {m₁ : Machine} {w₁ : ω}
      (read : Excerpt.parseBytes b.space b.watched chunk = .ok excerpt)
      (crashed : Crashed b.collaborators m w (m.arrange excerpt.elements) x events m₁ w₁) :
      Receives b m chunk w ⟨.crashed x, m₁, events, w₁⟩

theorem receive_receives (b : Bridge ω) (m : Machine) (chunk : List UInt8) (w : ω) :
    Receives b m chunk w (b.receive m chunk w) := by
  unfold receive
  cases read : Excerpt.parseBytes b.space b.watched chunk with
  | error fault => exact .dropped read
  | ok excerpt =>
    have stepped : step b.collaborators m excerpt.elements w
        = applyAll b.collaborators m (m.arrange excerpt.elements) w := rfl
    simp only [stepped]
    rcases applyAll_cases b.collaborators m (m.arrange excerpt.elements) w with
      ⟨ts, ended, processed⟩ | ⟨x, ended, crashed⟩
    · rw [ended]
      exact .processed read processed
    · rw [ended]
      exact .crashed read crashed

/-! ## The lock -/

/-- A poisoned lock still hands the machine out. -/
theorem recovered_acquire (l : Lock) : recovered l.acquire = l.machine := by
  obtain ⟨m, poisoned⟩ := l
  cases poisoned <;> rfl

theorem inFlight_eq (l : Lock) : l.inFlight = l.machine.inFlight :=
  congrArg Machine.inFlight (recovered_acquire l)

/-- A chunk does at the lock what it does at the machine, and leaves word of a panic. -/
theorem onChunk_eq (b : Bridge ω) (l : Lock) (chunk : List UInt8) (w : ω) :
    let h := b.receive l.machine chunk w
    b.onChunk l chunk w = ⟨h.outcome, ⟨h.machine, l.poisoned || h.outcome.isPanic⟩, h.events, h.world⟩ := by
  rw [onChunk, recovered_acquire]
  rfl

/-- A chunk crashes only where a call of the bridge does. -/
theorem crashesWith_of_onChunk {b : Bridge ω} {l : Lock} {chunk : List UInt8} {w : ω} {x : Crash}
    (crash : (b.onChunk l chunk w).outcome = .crashed x) : CrashesWith b.collaborators x := by
  rw [onChunk_eq] at crash
  have receives := receive_receives b l.machine chunk w
  generalize b.receive l.machine chunk w = h at receives crash
  cases receives with
  | dropped unread => cases crash
  | processed read processed => cases crash
  | crashed read crashed =>
    obtain rfl := Reception.crashed.inj crash
    exact crashed.crashesWith

/-! ## Runs that go on after panics -/

/-- What became of the chunks of a run, one by one. -/
structure Received (ω : Type) where
  outcomes : List Reception
  lock : Lock
  events : List Event
  world : ω

def Received.machine (taken : Received ω) : Machine := taken.lock.machine

/-- Whether the caller gets on behind a chunk: the call returns, or its panic is caught. -/
def Reception.goesOn : Reception → Bool
  | .crashed x => x.isPanic
  | .processed _ | .dropped _ => true

/-- Takes chunks one after the other. The caller catches what panics, and goes on; behind a call that
    never returns, or that aborts the program, there is nothing. -/
def receiveEach (b : Bridge ω) (l : Lock) : List (List UInt8) → ω → Received ω
  | [], w => ⟨[], l, [], w⟩
  | chunk :: chunks, w =>
    let h := b.onChunk l chunk w
    if h.outcome.goesOn then
      let later := b.receiveEach h.lock chunks h.world
      ⟨h.outcome :: later.outcomes, later.lock, h.events ++ later.events, later.world⟩
    else ⟨[h.outcome], h.lock, h.events, h.world⟩

theorem receiveEach_cons {b : Bridge ω} {l : Lock} {chunk : List UInt8} {w : ω}
    (goesOn : (b.onChunk l chunk w).outcome.goesOn = true) (chunks : List (List UInt8)) :
    let h := b.onChunk l chunk w
    let later := b.receiveEach h.lock chunks h.world
    b.receiveEach l (chunk :: chunks) w
      = ⟨h.outcome :: later.outcomes, later.lock, h.events ++ later.events, later.world⟩ :=
  if_pos goesOn

theorem receiveEach_cons_of_not {b : Bridge ω} {l : Lock} {chunk : List UInt8} {w : ω}
    (stops : ¬ (b.onChunk l chunk w).outcome.goesOn = true) (chunks : List (List UInt8)) :
    let h := b.onChunk l chunk w
    b.receiveEach l (chunk :: chunks) w = ⟨[h.outcome], h.lock, h.events, h.world⟩ :=
  if_neg stops

/-- Runs of chunks hold what the chunks preserve, whichever of them are taken. -/
theorem receiveEach_induction {b : Bridge ω} {motive : Lock → ω → Received ω → Prop}
    (nil : ∀ l w, motive l w ⟨[], l, [], w⟩)
    (last : ∀ l chunk w, let h := b.onChunk l chunk w; h.outcome.goesOn = false →
      motive l w ⟨[h.outcome], h.lock, h.events, h.world⟩)
    (cons : ∀ l chunk w later, let h := b.onChunk l chunk w; motive h.lock h.world later →
      motive l w ⟨h.outcome :: later.outcomes, later.lock, h.events ++ later.events, later.world⟩)
    (l : Lock) (chunks : List (List UInt8)) (w : ω) : motive l w (b.receiveEach l chunks w) := by
  induction chunks generalizing l w with
  | nil => exact nil l w
  | cons chunk chunks ih =>
    by_cases goesOn : (b.onChunk l chunk w).outcome.goesOn = true
    · rw [receiveEach_cons goesOn]
      exact cons l chunk w _ (ih _ _)
    · rw [receiveEach_cons_of_not goesOn]
      exact last l chunk w (Bool.eq_false_iff.mpr goesOn)

/-- A run and what follows it, if the caller gets on behind each chunk of the run: the later chunks see
    the lock and the world, and nothing else. -/
theorem receiveEach_append (b : Bridge ω) (l : Lock) (chunks later : List (List UInt8)) (w : ω) :
    let s := b.receiveEach l chunks w
    let t := b.receiveEach s.lock later s.world
    (∀ o ∈ s.outcomes, o.goesOn = true) →
      b.receiveEach l (chunks ++ later) w
        = ⟨s.outcomes ++ t.outcomes, t.lock, s.events ++ t.events, t.world⟩ := by
  induction chunks generalizing l w with
  | nil => exact fun _ => rfl
  | cons chunk chunks ih =>
    intro s t going
    have goesOn : (b.onChunk l chunk w).outcome.goesOn = true := by
      by_contra stops
      have run : s = _ := receiveEach_cons_of_not stops chunks
      exact stops (going _ (run ▸ List.mem_singleton_self _))
    have run : s = _ := receiveEach_cons goesOn chunks
    have rest := ih (b.onChunk l chunk w).lock (b.onChunk l chunk w).world fun o member =>
      going o (run ▸ List.mem_cons_of_mem _ member)
    rw [List.cons_append, receiveEach_cons goesOn, rest]
    simp only [t, run, List.cons_append, List.append_assoc]

/-- Where no call crashes a run takes all chunks. -/
theorem receiveAll_of_calm {b : Bridge ω} (calm : ∀ x, ¬ CrashesWith b.collaborators x) (l : Lock)
    (chunks : List (List UInt8)) (w : ω) :
    let s := b.receiveEach l chunks w
    b.receiveAll l chunks w = ⟨.ok chunks.length, s.lock, s.events, s.world⟩ := by
  induction chunks generalizing l w with
  | nil => rfl
  | cons chunk chunks ih =>
    have later := ih (b.onChunk l chunk w).lock (b.onChunk l chunk w).world
    cases taken : (b.onChunk l chunk w).outcome with
    | crashed x => exact absurd (crashesWith_of_onChunk taken) (calm x)
    | processed ts | dropped fault =>
      have goesOn : (b.onChunk l chunk w).outcome.goesOn = true := by rw [taken]; rfl
      simp only [receiveAll, receiveEach_cons goesOn, taken, later, Outcome.map, List.length_cons]

end ActionBridge.Bridge
