import ActionBridge.Action.Simulation
import ActionBridge.Proofs.Bridge.Crashes
import ActionBridge.Proofs.Shdr.Framing

/-!
# Failed requests

A request that fails leaves the handshake in flight as it was, and every data item of the adapter
but one: if acceptances are announced and the goal was accepted before the failure, the data item
of its action shows `ACTIVE` from then on, and no handshake takes it back (`apply_dispatchFailed`).
-/
namespace ActionBridge

/-! ## Acceptances at the adapter -/

namespace Shdr.Adapter

/-- Acceptances set the data item of the action, if they are announced and there are any. -/
theorem lastSet?_acceptances (announceActive : Bool) (told item : String) (accepted : Nat) :
    lastSet? item ((acceptances announceActive told accepted).map .told)
      = if announceActive = true ∧ 0 < accepted ∧ told = item then some "ACTIVE" else none := by
  cases announceActive with
  | false => simp [acceptances, lastSet?]
  | true =>
    induction accepted with
    | zero => simp [acceptances, lastSet?]
    | succ accepted ih =>
      have split : acceptances true told (accepted + 1)
          = transaction told "ACTIVE" ++ acceptances true told accepted := by
        simp [acceptances, List.replicate_succ]
      rw [split, List.map_append, lastSet?_append, ih, lastSet?_transaction]
      by_cases same : told = item
      · -- The later acceptances set the same value again, if there are any.
        by_cases more : 0 < accepted <;> simp [same, more]
      · simp [same]

end Shdr.Adapter

namespace Bridge
open Handshake

variable {ω σ : Type}

/-- The data item that shows an acceptance on account of a request for `action` in a world `w`. -/
def announcedItem? (goals : Goal.Source ω) (connector : Connector ω σ) (r : Registry)
    (announceActive : Bool) (action : String) (w : ω) : Option String :=
  match goals action w with
  | (.ok goal, w) =>
    if announceActive = true ∧ 0 < timesAcceptedBy connector r goal w then
      some (DataItem.name goal.action)
    else none
  | _ => none

variable {goals : Goal.Source ω} {connector : Connector ω σ} {r : Registry} {announceActive : Bool}

/-- A request that fails tells the sink of acceptances only, at whatever stage it fails. -/
theorem sinkLog_of_failed {w w₁ : ω} {action handshake : String} {error : DispatchFault}
    {events : List Event}
    (calls : Calls ⟨goals, dispatchAction connector r announceActive⟩ w
      (.dispatchFailed action handshake error) events w₁) :
    sinkLog events = acceptanceCalls goals connector r announceActive action w := by
  cases calls with
  | goalFailed asked =>
    have failed : goals action w = (.error error, w₁) := asked
    rw [acceptanceCalls, failed]
    rfl
  | dispatchFailed asked ran => exact sinkLog_of_ran asked ran

/-- Of the data items the acceptances set the announced one. -/
theorem lastSet?_acceptanceCalls (action item : String) (w : ω) :
    Shdr.Adapter.lastSet? item
        ((acceptanceCalls goals connector r announceActive action w).map .told)
      = if announcedItem? goals connector r announceActive action w = some item then some "ACTIVE"
        else none := by
  rw [acceptanceCalls, announcedItem?]
  rcases goals action w with ⟨goal | error | x, w₁⟩
  · simp only [Shdr.Adapter.lastSet?_acceptances]
    by_cases told : announceActive = true ∧ 0 < timesAcceptedBy connector r goal w₁
    · simp [told]
    · simp [← and_assoc, told]
  · rfl
  · rfl

/-! ## Goals of the agent's documents -/

theorem action_of_build {s : Goal.Schema} {seed : String} {goal : Goal}
    (made : s.build seed = .ok goal) : goal.action = s.action := by
  rw [Goal.Schema.build] at made
  split at made
  · cases made
  · simp only [bind, Except.bind] at made
    split at made
    · cases made
    · cases made
      rfl

theorem action_of_fromDocument {s : Goal.Schema} {space document : String} {goal : Goal}
    (made : s.fromDocument space document = .ok goal) : goal.action = s.action := by
  rw [Goal.Schema.fromDocument] at made
  split at made
  · cases made
  · cases made
  · exact action_of_build made

/-- A bridge that takes its goals from the agent announces acceptances on the data item of the action
    that is requested. -/
theorem announcedItem?_current {documents : DocumentSource ω} {space action item : String} {w : ω}
    (announced : announcedItem? (.current documents r space) connector r announceActive action w
      = some item) : item = DataItem.name action := by
  unfold announcedItem? Goal.Source.current at announced
  cases found : r.get? action with
  | none => simp [found] at announced
  | some s =>
    rcases answered : documents w with ⟨cause | document, w₁⟩
    · simp [found, answered] at announced
    · cases made : s.fromDocument space document with
      | error fault => simp [found, answered, made, Outcome.ofExcept] at announced
      | ok goal =>
        have named : goal.action = action :=
          (action_of_fromDocument made).trans (Registry.action_of_get? found)
        simp only [found, answered, made, Outcome.ofExcept, named] at announced
        split at announced
        · exact (Option.some.inj announced).symm
        · cases announced

/-! ## Requests that fail -/

/-- A request that fails leaves the handshake in flight. Of all data items it changes at most the one
    of its goal's action, whatever clients do meanwhile: that one shows `ACTIVE` if acceptances are
    announced and the goal was accepted before the failure. Where goals come from the agent it is the
    action that is requested. -/
theorem apply_dispatchFailed (goals : Goal.Source ω) (connector : Connector ω σ) (r : Registry)
    (announceActive : Bool) (m m₁ : Machine) (e : Element) (w w₁ : ω) (action handshake : String)
    (error : DispatchFault) (events : List Event)
    (failed : apply ⟨goals, dispatchAction connector r announceActive⟩ m e w
      = ⟨.ok (.dispatchFailed action handshake error), m₁, events, w₁⟩)
    (items : List String) (heartbeat : Nat) (before meanwhile : List Shdr.Adapter.Event)
    (told : Shdr.Adapter.callsOf meanwhile = sinkLog events) :
    m₁ = m ∧ sinkLog events = acceptanceCalls goals connector r announceActive e.action w ∧
      (∀ item,
        ((Shdr.Adapter.start items heartbeat).after (before ++ meanwhile)).value? item
          = if item ∈ items ∧
                announcedItem? goals connector r announceActive e.action w = some item then
              some "ACTIVE"
            else ((Shdr.Adapter.start items heartbeat).after before).value? item) ∧
      ∀ documents space item, goals = .current documents r space →
        announcedItem? goals connector r announceActive e.action w = some item →
        item = DataItem.name e.action := by
  have applies := failed ▸ apply_applies ⟨goals, dispatchAction connector r announceActive⟩ m e w
  have same : m₁ = m ∧ action = e.action := by
    cases applies with
    | goalFailed active fresh asked => exact ⟨rfl, rfl⟩
    | dispatchFailed active fresh asked ran => exact ⟨rfl, rfl⟩
  obtain ⟨rfl, rfl⟩ := same
  have log := sinkLog_of_failed (calls_of_apply failed)
  refine ⟨rfl, log, fun item => ?_, ?_⟩
  · have sound := (Shdr.Adapter.sound_start items heartbeat).after before
    have last : Shdr.Adapter.lastSet? item meanwhile
        = if announcedItem? goals connector r announceActive e.action w = some item then some "ACTIVE"
          else none := by
      rw [← Shdr.Adapter.lastSet?_callsOf, told, log, lastSet?_acceptanceCalls]
    rw [Shdr.Adapter.after_append, Shdr.Adapter.value?_after_eq sound, last]
    by_cases announced : announcedItem? goals connector r announceActive e.action w = some item
    · simp [announced]
    · simp [announced]
  · rintro documents space item rfl announced
    exact announcedItem?_current announced

/-! ## A goal that is aborted -/

/-- A connector whose goals are accepted and then aborted. -/
def abortingConnector : Connector Unit Simulation.Client :=
  { Simulation.connector "done" with awaitResult := fun c w => ⟨.ok .aborted, c, w⟩ }

def loadRegistry : Registry :=
  .ofSchemas [⟨"m", "MaterialLoad", "MaterialType", [⟨"material", .text, none⟩], none⟩]

/-- What becomes of a request whose goal is aborted. -/
def abortedRequest (announceActive : Bool) : Applied Unit :=
  apply ⟨fun action w => (.ok ⟨action, [("material", .text "STEEL")]⟩, w),
      dispatchAction abortingConnector loadRegistry announceActive⟩
    {} ⟨"MaterialLoad", .active, "load"⟩ ()

theorem abortedRequest_eq (announceActive : Bool) :
    abortedRequest announceActive
      = ⟨.ok (.dispatchFailed "MaterialLoad" "load" (.rejected "MaterialLoad" "aborted")), {},
          [.asked "MaterialLoad" (.ok ⟨"MaterialLoad", [("material", .text "STEEL")]⟩),
            .ran ⟨"MaterialLoad", [("material", .text "STEEL")]⟩
              (.error (.rejected "MaterialLoad" "aborted"))
              (acceptances announceActive "material_load" 1)], ()⟩ := by
  cases announceActive <;> rfl

/-- An aborted goal of which the acceptance is announced, with a client that joins meanwhile: the
    data item of the other action stays as it was. -/
theorem apply_dispatchFailed_aborted :
    Shdr.Adapter.callsOf [.told .begin, .connected "127.0.0.1:40000",
        .told (.set "material_load" "ACTIVE"), .told .complete] = sinkLog (abortedRequest true).events ∧
      ((Shdr.Adapter.start ["material_load", "open_door"] 10000).after
        ([.told (.set "open_door" "READY")] ++ [.told .begin, .connected "127.0.0.1:40000",
          .told (.set "material_load" "ACTIVE"), .told .complete])).value? "open_door"
        = some "READY" := by
  have told : Shdr.Adapter.callsOf [.told .begin, .connected "127.0.0.1:40000",
      .told (.set "material_load" "ACTIVE"), .told .complete]
        = sinkLog (abortedRequest true).events := by decide +kernel
  refine ⟨told, ?_⟩
  rw [abortedRequest_eq] at told
  obtain ⟨-, -, values, -⟩ := apply_dispatchFailed _ abortingConnector loadRegistry true {} {}
    ⟨"MaterialLoad", .active, "load"⟩ () () _ _ _ _ (abortedRequest_eq true)
    ["material_load", "open_door"] 10000 [.told (.set "open_door" "READY")] _ told
  rw [values "open_door"]
  decide +kernel

/-- A request that fails behind the acceptance of its goal changes the data item of its action from
    `READY` to `ACTIVE`, and leaves no handshake in flight. -/
theorem value?_changed_by_failure :
    (abortedRequest true).result = .ok
        (.dispatchFailed "MaterialLoad" "load" (.rejected "MaterialLoad" "aborted")) ∧
      (abortedRequest true).machine.inFlight = none ∧
      ((Shdr.Adapter.start ["material_load"] 10000).after
        [.told .begin, .told (.set "material_load" "READY"), .told .complete]).value? "material_load"
          = some "READY" ∧
      ((Shdr.Adapter.start ["material_load"] 10000).after
        ([.told .begin, .told (.set "material_load" "READY"), .told .complete]
          ++ (sinkLog (abortedRequest true).events).map .told)).value? "material_load"
          = some "ACTIVE" := by
  rw [abortedRequest_eq]
  decide +kernel

end Bridge
end ActionBridge
