import ActionBridge.Action.Simulation
import ActionBridge.Proofs.Bridge.Following
import ActionBridge.Proofs.Config.DataItems
import ActionBridge.Proofs.Handshake.Calls

/-!
# Updates of data items

Four things set a data item: the announcement of all of them, an acceptance, a result and the end of a
handshake. Each takes the name from what it has at hand, and each name is a data item of the registry
(`registered_published`). An adapter of these data items ignores no update, so it holds of each the
value that was published last (`published_taken`).
-/
namespace ActionBridge.Bridge
open Handshake

variable {ω σ : Type}

/-! ## What a bridge publishes -/

/-- What a bridge is asked for. -/
inductive Act where
  /-- to set all data items to `READY` -/
  | announce
  /-- to take a chunk -/
  | take (chunk : List UInt8)
  deriving Repr, DecidableEq

/-- All that acts tell the sink, one after the other, whatever becomes of each. -/
def published (b : Bridge ω) (l : Lock) : List Act → ω → List SinkCall
  | [], _ => []
  | .announce :: acts, w => b.readyCalls ++ b.published l acts w
  | .take chunk :: acts, w =>
    let h := b.onChunk l chunk w
    sinkLog h.events ++ b.published h.lock acts h.world

/-! ## Registered names -/

/-- Whatever calls set is a data item of the registry. -/
def Registered (r : Registry) (calls : List SinkCall) : Prop :=
  ∀ item value, .set item value ∈ calls → item ∈ r.dataItems

variable {r : Registry} {calls calls₁ : List SinkCall}

theorem Registered.append (first : Registered r calls) (second : Registered r calls₁) :
    Registered r (calls ++ calls₁) :=
  fun item value member => (List.mem_append.mp member).elim (first item value) (second item value)

theorem registered_nil : Registered r [] := nofun

theorem registered_transaction {item : String} (known : item ∈ r.dataItems) (value : String) :
    Registered r (transaction item value) := by
  intro other told member
  obtain ⟨rfl, rfl⟩ : other = item ∧ told = value := by simpa [transaction] using member
  exact known

theorem registered_acceptances {item : String} (known : item ∈ r.dataItems) (announceActive : Bool)
    (accepted : Nat) : Registered r (acceptances announceActive item accepted) := by
  intro other told member
  rw [acceptances] at member
  split at member
  · obtain ⟨calls, among, here⟩ := List.mem_flatten.mp member
    obtain rfl := List.eq_of_mem_replicate among
    exact registered_transaction known "ACTIVE" other told here
  · exact absurd member List.not_mem_nil

theorem name_mem_dataItems {action : String} (known : action ∈ r.actions) :
    DataItem.name action ∈ r.dataItems := by
  rw [r.dataItems_eq]
  exact List.mem_map_of_mem known

/-- Acceptances are announced for goals of registered actions only. -/
theorem registered_dispatchAction (connector : Connector ω σ) (r : Registry) (announceActive : Bool)
    (goal : Goal) (w : ω) : Registered r (dispatchAction connector r announceActive goal w).calls := by
  rw [calls_dispatchAction]
  cases found : r.get? goal.action with
  | none =>
    have unaccepted : timesAcceptedBy connector r goal w = 0 := by rw [timesAcceptedBy, found]
    rw [unaccepted, acceptances_zero]
    exact registered_nil
  | some s =>
    exact registered_acceptances
      (name_mem_dataItems (Assoc.mem_keys_of_get?_eq_some found)) announceActive _

theorem registered_readyCalls (b : Bridge ω) : Registered b.registry b.readyCalls := by
  intro item value member
  simp only [readyCalls, List.mem_append, List.mem_cons, List.mem_map, List.not_mem_nil, or_false,
    reduceCtorEq, false_or, SinkCall.set.injEq] at member
  obtain ⟨other, known, rfl, -⟩ := member
  exact known

/-! ## Acts -/

section Dispatching

variable {c : Collaborators ω}

/-- An element of a registered action, whatever becomes of it. -/
theorem registered_apply (dispatches : ∀ goal w, Registered r (c.dispatcher goal w).calls) (m : Machine)
    {e : Element} (known : e.action ∈ r.actions) (w : ω) :
    Registered r (sinkLog (apply c m e w).events) := by
  have item := name_mem_dataItems known
  have log (goal : Goal) (answer : Outcome DispatchFault String) (calls : List SinkCall) :
      sinkLog [.asked e.action (.ok goal), .ran goal answer calls] = calls := by
    simp [sinkLog, Event.calls]
  have ran {goal : Goal} {w w₁ : ω} {answer : Outcome DispatchFault String} {calls : List SinkCall}
      (ran : c.dispatcher goal w = ⟨answer, calls, w₁⟩) : Registered r calls := by
    have told := dispatches goal w
    rwa [ran] at told
  have announced (value : String) : Registered r (sinkLog (announce e.action value)) :=
    registered_transaction item value
  have applies := apply_applies c m e w
  generalize apply c m e w = a at applies
  cases applies with
  | goalCrashed active fresh asked => exact registered_nil
  | goalFailed active fresh asked => exact registered_nil
  | dispatchCrashed active fresh asked answered => exact log _ _ _ ▸ ran answered
  | dispatchFailed active fresh asked answered => exact log _ _ _ ▸ ran answered
  | dispatched active fresh asked answered =>
    rw [sinkLog_append, log]
    exact (ran answered).append (announced _)
  | completed ready current => exact announced "READY"
  | ignored repeated stale => exact registered_nil

theorem registered_applyAll (dispatches : ∀ goal w, Registered r (c.dispatcher goal w).calls)
    (m : Machine) {es : List Element} (known : ∀ e ∈ es, e.action ∈ r.actions) (w : ω) :
    Registered r (sinkLog (applyAll c m es w).events) := by
  induction es generalizing m w with
  | nil => exact registered_nil
  | cons e es ih =>
    have first := registered_apply dispatches m (known e List.mem_cons_self) w
    have later := ih (apply c m e w).machine (fun e member => known e (List.mem_cons_of_mem _ member))
      (apply c m e w).world
    rw [applyAll]
    cases (apply c m e w).result with
    -- What an element tells the sink before it crashes is registered as well.
    | error x => exact first
    | ok t =>
      simp only [sinkLog_append]
      exact first.append later

end Dispatching

variable {b : Bridge ω}

/-- A chunk has only elements of watched actions, and these are the registered ones. -/
theorem registered_onChunk
    (dispatches : ∀ goal w, Registered b.registry (b.collaborators.dispatcher goal w).calls) (l : Lock)
    (chunk : List UInt8) (w : ω) : Registered b.registry (sinkLog (b.onChunk l chunk w).events) := by
  rw [onChunk_eq, receive]
  cases read : Excerpt.parseBytes b.space b.watched chunk with
  | error fault => exact registered_nil
  | ok excerpt =>
    exact registered_applyAll dispatches l.machine
      (fun e member => Excerpt.action_mem_of_parseBytes read e (mem_arrange.mp member)) w

theorem registered_published
    (dispatches : ∀ goal w, Registered b.registry (b.collaborators.dispatcher goal w).calls) (l : Lock)
    (acts : List Act) (w : ω) : Registered b.registry (b.published l acts w) := by
  induction acts generalizing l w with
  | nil => exact registered_nil
  | cons act acts ih =>
    cases act with
    | announce => exact (registered_readyCalls b).append (ih l w)
    | take chunk => exact (registered_onChunk dispatches l chunk w).append (ih _ _)

/-- All data items are set once they are announced. -/
theorem set_mem_published {l : Lock} {acts : List Act} {w : ω} (announced : .announce ∈ acts)
    {item : String} (known : item ∈ b.registry.dataItems) : .set item "READY" ∈ b.published l acts w := by
  induction acts generalizing l w with
  | nil => exact absurd announced List.not_mem_nil
  | cons act acts ih =>
    cases act with
    | announce =>
      have here : .set item "READY" ∈ b.readyCalls := by simpa [readyCalls] using known
      exact List.mem_append_left _ here
    | take chunk =>
      exact List.mem_append_right _ (ih (List.mem_of_ne_of_mem (by nofun) announced))

/-! ## The adapter -/

/-- Whatever a bridge and the dispatcher of its registry publish, of any goals and with any answers of
    the action server, is a data item of the registry. So an adapter of these data items takes every
    update, whatever its clients do meanwhile, and behind any acts holds of each data item the value
    that was published last, or none if none was; there is one once all are announced. -/
theorem published_taken (connector : Connector ω σ) (r : Registry) (announceActive : Bool)
    (goals : Goal.Source ω) (space : String) (l : Lock) (acts : List Act) (w : ω) (heartbeat : Nat) :
    let b : Bridge ω := ⟨r, space, ⟨goals, dispatchAction connector r announceActive⟩⟩
    let log := b.published l acts w
    let a := Shdr.Adapter.start r.dataItems heartbeat
    Registered r log ∧
      ∀ es, Shdr.Adapter.callsOf es = log →
        (∀ before item value later, es = before ++ .told (.set item value) :: later →
          (a.after (before ++ [.told (.set item value)])).value? item = some value) ∧
        ∀ item ∈ r.dataItems,
          (a.after es).value? item = Shdr.Adapter.lastSet? item (log.map .told) ∧
            (.announce ∈ acts → ((a.after es).value? item).isSome) := by
  intro b log a
  have registered : Registered r log :=
    registered_published (b := b) (registered_dispatchAction connector r announceActive) l acts w
  have sound := Shdr.Adapter.sound_start r.dataItems heartbeat
  have holds (es : List Shdr.Adapter.Event) {item : String} (known : item ∈ r.dataItems) :
      (a.after es).value? item = Shdr.Adapter.lastSet? item es := by
    rw [Shdr.Adapter.value?_after sound (List.mem_eraseDups.mpr known), Shdr.Adapter.value?_start,
      Option.or_none]
  refine ⟨registered, fun es told => ⟨?_, fun item known => ?_⟩⟩
  · rintro before item value later rfl
    have among : SinkCall.set item value ∈ log := by
      rw [← told]
      exact List.mem_filterMap.mpr ⟨_, List.mem_append_right _ List.mem_cons_self, rfl⟩
    have here : Shdr.Adapter.Event.valueOf? item (.told (.set item value)) = some value := if_pos rfl
    rw [holds _ (registered item value among), Shdr.Adapter.lastSet?_snoc, here, Option.some_or]
  · rw [holds es known, ← Shdr.Adapter.lastSet?_callsOf, told]
    refine ⟨rfl, fun announced => ?_⟩
    have among : SinkCall.set item "READY" ∈ log := set_mem_published announced known
    exact Shdr.Adapter.isSome_lastSet? (List.mem_map_of_mem among)

/-- Two actions with one data item, announced and then requested and ended one after the other, while
    a client joins. -/
theorem published_taken_shared :
    let r := Registry.ofSchemas
      [⟨"urn:m", "MaterialLoad", "Material", [⟨"kind", .text, none⟩], none⟩,
        ⟨"urn:m", "material_load", "Material", [⟨"kind", .text, none⟩], none⟩]
    let goals : Goal.Source Unit := fun action w => (.ok ⟨action, [("kind", .text "steel")]⟩, w)
    let b : Bridge Unit :=
      ⟨r, "urn:m", ⟨goals, dispatchAction (Simulation.connector "done") r true⟩⟩
    let acts : List Act := [.announce, .take (pageOf "<MaterialLoad name=\"h\">ACTIVE</MaterialLoad>").body,
      .take (pageOf "<material_load name=\"k\">ACTIVE</material_load>").body]
    let es : List Shdr.Adapter.Event := .connected "127.0.0.1:40000" :: (b.published {} acts ()).map .told
    Shdr.Adapter.callsOf es = b.published {} acts () ∧
      ((Shdr.Adapter.start r.dataItems 10000).after es).value? "material_load" = some "done" := by
  intro r goals b acts es
  have told : Shdr.Adapter.callsOf es = b.published {} acts () :=
    (List.filterMap_map ..).trans List.filterMap_some
  obtain ⟨-, held⟩ := published_taken (Simulation.connector "done") r true goals "urn:m" {} acts () 10000
  refine ⟨told, ?_⟩
  rw [((held es told).2 "material_load" (by decide +kernel)).1]
  decide +kernel

end ActionBridge.Bridge
