import ActionBridge.Proofs.Bridge.Chunks
import ActionBridge.Proofs.Handshake.Calls

/-!
# Crashes

A crash at an element of a chunk leaves the machine and the sink as they were before the element,
but for the acceptances that were announced until then, each in a transaction of its own. No
transaction is left open. A panic leaves the lock poisoned as well, which the chunks that follow take
no notice of (`receiveEach_crash_contained`).
-/
namespace ActionBridge.Bridge
open Handshake

variable {ω σ : Type}

/-! ## What a crash leaves -/

/-- What the acceptances tell the sink that come of asking for `action` in a world `w`. -/
def acceptanceCalls (goals : Goal.Source ω) (connector : Connector ω σ) (r : Registry)
    (announceActive : Bool) (action : String) (w : ω) : List SinkCall :=
  match goals action w with
  | (.ok goal, w) =>
    acceptances announceActive (DataItem.name goal.action) (timesAcceptedBy connector r goal w)
  | _ => []

variable {goals : Goal.Source ω} {connector : Connector ω σ} {r : Registry} {announceActive : Bool}

/-- A dispatch tells the sink of acceptances only, however it ends. -/
theorem sinkLog_of_ran {action : String} {goal : Goal} {answer : Outcome DispatchFault String}
    {calls : List SinkCall} {w w₁ w₂ : ω} (asked : goals action w = (.ok goal, w₁))
    (ran : dispatchAction connector r announceActive goal w₁ = ⟨answer, calls, w₂⟩) :
    sinkLog [.asked action (.ok goal), .ran goal answer calls]
      = acceptanceCalls goals connector r announceActive action w := by
  have told : calls = (dispatchAction connector r announceActive goal w₁).calls :=
    (congrArg Dispatched.calls ran).symm
  have log : sinkLog [.asked action (.ok goal), .ran goal answer calls] = calls := by
    simp [sinkLog, Event.calls]
  rw [log, told, calls_dispatchAction, acceptanceCalls, asked]

/-- Before it crashes a request tells the sink of acceptances only. -/
theorem sinkLog_of_crashCalls {w w₁ : ω} {action : String} {x : Crash} {events : List Event}
    (calls : CrashCalls ⟨goals, dispatchAction connector r announceActive⟩ w action x events w₁) :
    sinkLog events = acceptanceCalls goals connector r announceActive action w := by
  cases calls with
  | goal asked =>
    have failed : goals action w = (.crash x, w₁) := asked
    rw [acceptanceCalls, failed]
    rfl
  | dispatch asked ran => exact sinkLog_of_ran asked ran

/-- What is left of a chunk `h` at a lock `l` in a world `w` that crashes with `x`: what the elements
    before the one of the crash come to, and the acceptances announced for that one. -/
structure StopsAt (b : Bridge ω) (accepted : String → ω → List SinkCall) (l : Lock)
    (chunk : List UInt8) (w : ω) (x : Crash) (h : Locked ω) (done : List Element) (e : Element) :
    Prop where
  order : ∃ excerpt rest, Excerpt.parseBytes b.space b.watched chunk = .ok excerpt ∧
    l.machine.arrange excerpt.elements = done ++ e :: rest
  processed : ∃ ts, (applyAll b.collaborators l.machine done w).result = .ok ts
  crashes : (apply b.collaborators (applyAll b.collaborators l.machine done w).machine e
    (applyAll b.collaborators l.machine done w).world).result = .error x
  machine : h.lock.machine = (applyAll b.collaborators l.machine done w).machine
  inFlight : h.lock.inFlight = (applyAll b.collaborators l.machine done w).machine.inFlight
  log : sinkLog h.events = sinkLog (applyAll b.collaborators l.machine done w).events
    ++ accepted e.action (applyAll b.collaborators l.machine done w).world

theorem exists_stopsAt {b : Bridge ω}
    (dispatches : b.collaborators = ⟨goals, dispatchAction connector r announceActive⟩) {l : Lock}
    {chunk : List UInt8} {w : ω} {x : Crash} (crash : (b.onChunk l chunk w).outcome = .crashed x) :
    ∃ done e, StopsAt b (acceptanceCalls goals connector r announceActive) l chunk w x
      (b.onChunk l chunk w) done e := by
  rw [onChunk_eq] at crash ⊢
  have receives := receive_receives b l.machine chunk w
  generalize b.receive l.machine chunk w = h at receives crash
  cases receives with
  | dropped unread => exact Reception.noConfusion crash
  | processed read processed => exact Reception.noConfusion crash
  | @crashed excerpt y events m₁ w₁ read crashed =>
    obtain rfl : y = x := Reception.crashed.inj crash
    obtain ⟨done, e, rest, ts, earlier, last, m₂, w₂, order, processed, crashes, rfl⟩ := crashed.split
    have before := processed.applyAll_eq
    have here := crashCalls_of_apply crashes
    rw [dispatches] at here
    have same : m₁ = m₂ := machine_of_crash crashes
    refine ⟨done, e, ⟨excerpt, rest, read, order⟩, ⟨ts, by rw [before]⟩, ?_, ?_, ?_, ?_⟩
    · rw [before, crashes]
    · rw [before]
      exact same
    · rw [before, inFlight_eq]
      exact congrArg Machine.inFlight same
    · rw [before, sinkLog_append, sinkLog_of_crashCalls here]

/-! ## Transactions -/

section Whole

variable {b : Bridge ω} (whole : ∀ goal w, Transactional (b.collaborators.dispatcher goal w).calls)

include whole

theorem transactional_onChunk (l : Lock) (chunk : List UInt8) (w : ω) :
    Transactional (sinkLog (b.onChunk l chunk w).events) := by
  rw [onChunk_eq]
  have receives := receive_receives b l.machine chunk w
  generalize b.receive l.machine chunk w = h at receives ⊢
  cases receives with
  | dropped unread => exact transactional_nil
  | processed read processed => exact processed.callsAll.transactional whole
  | crashed read crashed => exact crashed.transactional whole

theorem transactional_receiveEach (l : Lock) (chunks : List (List UInt8)) (w : ω) :
    Transactional (sinkLog (b.receiveEach l chunks w).events) := by
  refine receiveEach_induction (motive := fun _ _ taken => Transactional (sinkLog taken.events))
    (fun _ _ => transactional_nil) ?_ ?_ l chunks w
  · intro l chunk w h stops
    exact transactional_onChunk whole l chunk w
  · intro l chunk w later h taken
    rw [sinkLog_append]
    exact (transactional_onChunk whole l chunk w).append taken

end Whole

/-! ## Poisoned locks -/

/-- Two runs that differ at most in whether the lock is poisoned. -/
structure Alike (s t : Received ω) : Prop where
  outcomes : s.outcomes = t.outcomes
  machine : s.machine = t.machine
  events : s.events = t.events
  world : s.world = t.world

/-- A run takes no notice of a poisoned lock. -/
theorem alike_of_machine (b : Bridge ω) (l l' : Lock) (same : l.machine = l'.machine)
    (chunks : List (List UInt8)) (w : ω) : Alike (b.receiveEach l chunks w) (b.receiveEach l' chunks w) := by
  induction chunks generalizing l l' w with
  | nil => exact ⟨rfl, same, rfl, rfl⟩
  | cons chunk chunks ih =>
    have here := onChunk_eq b l chunk w
    have there := onChunk_eq b l' chunk w
    rw [← same] at there
    generalize b.receive l.machine chunk w = h at here there
    by_cases goesOn : h.outcome.goesOn = true
    · rw [receiveEach_cons (by rw [here]; exact goesOn), receiveEach_cons (by rw [there]; exact goesOn),
        here, there]
      obtain ⟨outcomes, machine, events, world⟩ :=
        ih ⟨h.machine, l.poisoned || h.outcome.isPanic⟩ ⟨h.machine, l'.poisoned || h.outcome.isPanic⟩ rfl
          h.world
      exact ⟨congrArg (h.outcome :: ·) outcomes, machine, congrArg (h.events ++ ·) events, world⟩
    · rw [receiveEach_cons_of_not (by rw [here]; exact goesOn),
        receiveEach_cons_of_not (by rw [there]; exact goesOn), here, there]
      exact ⟨rfl, rfl, rfl, rfl⟩

/-! ## Runs -/

/-- A chunk at which a call crashes leaves of itself what came before the crash, and the sink in no
    transaction. If the call panics the lock is poisoned, and yet the chunks behind it are taken as on
    a bridge that never panicked and has the same machine. They see what this chunk leaves, and nothing
    else of the run before. -/
theorem receiveEach_crash_contained (connector : Connector ω σ) (r : Registry) (announceActive : Bool)
    (goals : Goal.Source ω) (space : String) (l : Lock) (before later : List (List UInt8))
    (chunk : List UInt8) (w : ω) :
    let b : Bridge ω := ⟨r, space, ⟨goals, dispatchAction connector r announceActive⟩⟩
    let s := b.receiveEach l before w
    let h := b.onChunk s.lock chunk s.world
    let t := b.receiveEach h.lock later h.world
    let unharmed := b.receiveEach ⟨h.lock.machine, false⟩ later h.world
    (∀ x, h.outcome = .crashed x → ∃ done e,
        StopsAt b (acceptanceCalls goals connector r announceActive) s.lock chunk s.world x h done e) ∧
      (∀ message, h.outcome = .crashed (.panic message) → h.lock.poisoned = true) ∧
      Transactional (sinkLog (s.events ++ h.events)) ∧ Bracketed (sinkLog (s.events ++ h.events)) ∧
      Alike t unharmed ∧
      ((∀ o ∈ s.outcomes, o.goesOn = true) → h.outcome.goesOn = true →
        b.receiveEach l (before ++ chunk :: later) w
          = ⟨s.outcomes ++ h.outcome :: t.outcomes, t.lock, s.events ++ (h.events ++ t.events),
              t.world⟩) := by
  intro b s h t unharmed
  have whole := transactional_dispatchAction connector r announceActive
  have log : Transactional (sinkLog (s.events ++ h.events)) := by
    rw [sinkLog_append]
    exact (transactional_receiveEach whole l before w).append (transactional_onChunk whole _ chunk _)
  refine ⟨fun x crash => exists_stopsAt rfl crash, fun message crash => ?_, log, log.brackets,
    alike_of_machine b h.lock ⟨h.lock.machine, false⟩ rfl later h.world, fun going goesOn => ?_⟩
  · have poisoned : h.lock.poisoned = (s.lock.poisoned || h.outcome.isPanic) := rfl
    rw [poisoned, crash]
    exact Bool.or_true _
  · have behind : b.receiveEach s.lock (chunk :: later) s.world = _ := receiveEach_cons goesOn later
    rw [receiveEach_append b l before (chunk :: later) w going, behind]

/-! ## An action that panics once -/

/-- A connector that panics behind the acceptance of the first goal, and runs the later ones. -/
def falteringConnector : Connector Nat Unit where
  connect _ n := (.ok (), n)
  awaitServer _ n := ⟨.ok (), (), n⟩
  submit _ _ n := ⟨1, if n = 0 then .crash (.panic "connector bug") else .ok (), (), n + 1⟩
  awaitResult _ n := ⟨.ok .succeeded, (), n⟩
  fetchResult _ n := ⟨.ok (.ofJson (.string "LOADED")), (), n⟩

def falteringRegistry : Registry := .ofSchemas [⟨"urn:m", "load", "Material", [], none⟩]

/-- Goals of the action's name alone. -/
def bareGoals : Goal.Source Nat := fun action n => (.ok ⟨action, []⟩, n)

/-- A document in which the machine tool asks for the action. -/
def requestChunk : List UInt8 :=
  Utf8.bytesOf "<s xmlns=\"urn:m\"><Header nextSequence=\"7\"/><load name=\"h\">ACTIVE</load></s>"

/-- The first chunk leaves nothing but the announced acceptance and a poisoned lock, and the same chunk
    behind it is processed. -/
theorem receiveEach_crash_contained_retried :
    let b : Bridge Nat := ⟨falteringRegistry, "urn:m",
      ⟨bareGoals, dispatchAction falteringConnector falteringRegistry true⟩⟩
    let s := b.receiveEach {} [] 0
    let h := b.onChunk s.lock requestChunk s.world
    let t := b.receiveEach h.lock [requestChunk] h.world
    h.outcome = .crashed (.panic "connector bug") ∧ h.lock.poisoned = true ∧ h.lock.inFlight = none ∧
      sinkLog h.events = transaction "load" "ACTIVE" ∧
      (∃ done e, StopsAt b (acceptanceCalls bareGoals falteringConnector falteringRegistry true) s.lock
        requestChunk s.world (.panic "connector bug") h done e) ∧
      t.outcomes = [.processed [.dispatched "load" "h" "LOADED" none]] ∧ t.lock.inFlight = some "h" ∧
      Alike t (b.receiveEach ⟨h.lock.machine, false⟩ [requestChunk] h.world) ∧
      (b.receiveEach {} [requestChunk, requestChunk] 0).outcomes = h.outcome :: t.outcomes := by
  intro b s h t
  have crash : h.outcome = .crashed (.panic "connector bug") := by decide +kernel
  have goesOn : h.outcome.goesOn = true := congrArg Reception.goesOn crash
  obtain ⟨stops, poisoned, -, -, alike, run⟩ := receiveEach_crash_contained falteringConnector
    falteringRegistry true bareGoals "urn:m" {} [] [requestChunk] requestChunk 0
  have outcomes := congrArg Received.outcomes (run nofun goesOn)
  exact ⟨crash, poisoned _ crash, by decide +kernel, by decide +kernel, stops _ crash,
    by decide +kernel, by decide +kernel, alike, outcomes⟩

end ActionBridge.Bridge
