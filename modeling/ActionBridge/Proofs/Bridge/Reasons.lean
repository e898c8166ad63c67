import ActionBridge.Command.Run
import ActionBridge.Proofs.Bridge.Failures
import ActionBridge.Proofs.Bridge.Following
import ActionBridge.Proofs.Config.Goals
import ActionBridge.Proofs.Gateway.Failures

/-!
# Reasons for dropped requests

The registry of a configuration makes a goal unless its first field cannot hold the text of the agent
(`dependable_of_registers`), and the dispatcher takes every goal so made to the action server
(`exists_runGoal_of_build`). So a request is dropped for want of a goal (`Unmade`) or by the action
server, and never because an action is unknown or a goal has the wrong size (`reasons_of_parse`).
-/
namespace ActionBridge

/-! ## Schemas -/

/-- A goal of the schema is made or refused by the field `first` alone, which is the first one. -/
structure Goal.Schema.RestsOn (s : Goal.Schema) (first : Goal.Field) : Prop where
  head : s.fields.head? = some first
  refuses : ∀ seed, first.kind.read? seed = none →
    s.build seed = .error (.invalidField s.action first.key seed)
  makes : ∀ seed, first.kind.read? seed ≠ none →
    ∃ goal, s.build seed = .ok goal ∧ goal.fields.length = s.fields.length

/-- The goals of all actions rest on their first fields. -/
def Registry.Dependable (r : Registry) : Prop :=
  ∀ action s, r.get? action = some s → ∃ first, s.RestsOn first

namespace Config

theorem exists_restsOn_of_fields {fs : List Section.Field} {schema : Goal.Schema}
    (fields : Fields fs schema.fields) : ∃ first, schema.RestsOn first := by
  cases made : schema.fields with
  | nil => exact nomatch made ▸ fields
  | cons spec specs =>
    rw [made] at fields
    cases fields with
    | cons seeded filled =>
      obtain ⟨values, hold, builds⟩ := exists_build_of_filled made filled
      refine ⟨spec, by rw [made]; rfl, fun seed unread => by rw [builds, unread], fun seed reads => ?_⟩
      obtain ⟨value, read⟩ := Option.ne_none_iff_exists'.mp reads
      refine ⟨_, by rw [builds, read], ?_⟩
      rw [made, List.length_cons, List.length_cons, ← hold.length_eq, filled.length_eq]

theorem dependable_of_registers {groups : List (String × List (String × Section.Action))} {r : Registry}
    (registers : Registers groups r) : r.Dependable := by
  intro action s known
  obtain ⟨a, member, describes⟩ := registers.exists_written known
  exact exists_restsOn_of_fields describes.fields

end Config

namespace Bridge
open Handshake

variable {ω σ : Type} {r : Registry} {action : String} {documents : DocumentSource ω}
  {connector : Connector ω σ} {announceActive : Bool}

/-! ## Making a goal -/

/-- Why no goal is made of an action: the agent's document is not to be had, has no goal element, or
    has a text there that the first field cannot hold. -/
inductive Unmade (r : Registry) (action : String) : DispatchFault → Prop
  | unavailable (cause : BridgeFault) : Unmade r action (.unavailable cause)
  | elementMissing {s : Goal.Schema} (known : r.get? action = some s) :
      Unmade r action (.goalElementMissing action s.goalElement)
  | unread {s : Goal.Schema} {first : Goal.Field} {seed : String} (known : r.get? action = some s)
      (head : s.fields.head? = some first) (unread : first.kind.read? seed = none) :
      Unmade r action (.invalidField action first.key seed)

/-- What can become of asking for the goal of an action. -/
inductive Makes (r : Registry) (action : String) : Outcome DispatchFault Goal → Prop
  | goal {seed : String} {goal : Goal} (built : r.build action seed = .ok goal) :
      Makes r action (.ok goal)
  | unmade {fault : DispatchFault} (reason : Unmade r action fault) : Makes r action (.error fault)

theorem current_makes (dependable : r.Dependable) (member : action ∈ r.actions)
    (documents : DocumentSource ω) (space : String) (w : ω) :
    Makes r action (Goal.Source.current documents r space action w).1 := by
  obtain ⟨s, known⟩ := Registry.exists_get?_of_mem_actions member
  obtain ⟨first, rests⟩ := dependable action s known
  have named : s.action = action := Registry.action_of_get? known
  unfold Goal.Source.current
  rw [known]
  rcases documents w with ⟨cause | document, w₁⟩
  · exact .unmade (.unavailable cause)
  · dsimp only
    rw [Goal.Schema.fromDocument]
    rcases Excerpt.textOf space s.goalElement document with fault | (none | seed)
    · exact .unmade (.unavailable _)
    · rw [named]
      exact .unmade (.elementMissing known)
    · dsimp only
      by_cases unread : first.kind.read? seed = none
      · rw [rests.refuses seed unread, named]
        exact .unmade (.unread known rests.head unread)
      · obtain ⟨goal, made, -⟩ := rests.makes seed unread
        rw [made]
        exact .goal (by rw [Registry.build, known]; exact made)

/-! ## Running a goal -/

/-- A goal that the registry makes passes the checks of the dispatcher. -/
theorem exists_runGoal_of_build (dependable : r.Dependable) {seed : String} {goal : Goal}
    (built : r.build action seed = .ok goal) :
    ∃ s, r.get? action = some s ∧ ∀ (connector : Connector ω σ) announceActive w,
      dispatchAction connector r announceActive goal w = runGoal connector s announceActive goal w := by
  rw [Registry.build] at built
  cases known : r.get? action with
  | none =>
    rw [known] at built
    cases built
  | some s =>
    rw [known] at built
    obtain ⟨first, rests⟩ := dependable action s known
    -- The goal was made, so the first field holds the text, and there is a value for every field.
    have fits : goal.fields.length = s.fields.length := by
      by_cases unread : first.kind.read? seed = none
      · cases built.symm.trans (rests.refuses seed unread)
      · obtain ⟨other, made, fits⟩ := rests.makes seed unread
        obtain rfl := Except.ok.inj (built.symm.trans made)
        exact fits
    have named : goal.action = action := (action_of_build built).trans (Registry.action_of_get? known)
    refine ⟨s, rfl, fun connector announceActive w => ?_⟩
    rw [dispatchAction, named, known]
    exact if_neg (not_not_intro fits)

/-! ## Transitions -/

/-- How a transition comes about: a request of the machine tool is dropped for want of a goal, or
    ends as a goal that the registry made does behind the checks of the dispatcher. -/
inductive Accounted (connector : Connector ω σ) (r : Registry) (announceActive : Bool) :
    Transition → Prop
  | unmade {action handshake : String} {fault : DispatchFault} (reason : Unmade r action fault) :
      Accounted connector r announceActive (.dispatchFailed action handshake fault)
  | failed {action handshake seed : String} {s : Goal.Schema} {goal : Goal} {fault : DispatchFault}
      {w : ω} (known : r.get? action = some s) (built : r.build action seed = .ok goal)
      (ended : (runGoal connector s announceActive goal w).outcome = .error fault) :
      Accounted connector r announceActive (.dispatchFailed action handshake fault)
  | dispatched {action handshake seed result : String} {superseded : Option String} {s : Goal.Schema}
      {goal : Goal} {w : ω} (known : r.get? action = some s) (built : r.build action seed = .ok goal)
      (ended : (runGoal connector s announceActive goal w).outcome = .ok result) :
      Accounted connector r announceActive (.dispatched action handshake result superseded)
  | completed {action handshake : String} :
      Accounted connector r announceActive (.completed action handshake)
  | ignored {action handshake state : String} :
      Accounted connector r announceActive (.ignored action handshake state)

section Runs

variable {c : Collaborators ω} (dependable : r.Dependable)
  (makes : ∀ action ∈ r.actions, ∀ w, Makes r action (c.goals action w).1)
  (dispatches : c.dispatcher = dispatchAction connector r announceActive)
include dependable makes dispatches

theorem accounted_of_apply {m m₁ : Machine} {e : Element} {w w₁ : ω} {t : Transition}
    {events : List Event} (member : e.action ∈ r.actions)
    (applied : apply c m e w = ⟨.ok t, m₁, events, w₁⟩) : Accounted connector r announceActive t := by
  have applies := applied ▸ apply_applies c m e w
  have makes := makes e.action member w
  cases applies with
  | goalFailed active fresh asked =>
    rw [asked] at makes
    cases makes with
    | unmade reason => exact .unmade reason
  | dispatchFailed active fresh asked ran =>
    rw [asked] at makes
    cases makes with
    | goal built =>
      obtain ⟨s, known, runs⟩ := exists_runGoal_of_build dependable built
      exact .failed known built (by rw [← runs, ← dispatches, ran])
  | dispatched active fresh asked ran =>
    rw [asked] at makes
    cases makes with
    | goal built =>
      obtain ⟨s, known, runs⟩ := exists_runGoal_of_build dependable built
      exact .dispatched known built (by rw [← runs, ← dispatches, ran])
  | completed ready current => exact .completed
  | ignored repeated stale => exact .ignored

theorem accounted_of_processed {m m₁ : Machine} {es : List Element} {w w₁ : ω} {ts : List Transition}
    {events : List Event} (processed : Processed c m w es ts events m₁ w₁)
    (members : ∀ e ∈ es, e.action ∈ r.actions) : ∀ t ∈ ts, Accounted connector r announceActive t := by
  induction processed with
  | nil => exact fun _ member => absurd member List.not_mem_nil
  | cons head _ ih =>
    obtain ⟨first, later⟩ := List.forall_mem_cons.mp members
    exact List.forall_mem_cons.mpr
      ⟨accounted_of_apply dependable makes dispatches first head, ih later⟩

end Runs

section Chunks

variable {b : Bridge ω} (dependable : b.registry.Dependable)
  (makes : ∀ action ∈ b.registry.actions, ∀ w,
    Makes b.registry action (b.collaborators.goals action w).1)
  (dispatches : b.collaborators.dispatcher = dispatchAction connector b.registry announceActive)
include dependable makes dispatches

theorem accounted_of_onChunk (l : Lock) (chunk : List UInt8) (w : ω) :
    ∀ t ∈ (b.onChunk l chunk w).outcome.transitions,
      Accounted connector b.registry announceActive t := by
  have none : ∀ t ∈ [], Accounted connector b.registry announceActive t :=
    fun _ member => absurd member List.not_mem_nil
  rw [onChunk_eq]
  have receives := receive_receives b l.machine chunk w
  generalize b.receive l.machine chunk w = h at receives ⊢
  cases receives with
  | dropped unread => exact none
  | crashed read crashed => exact none
  | processed read processed =>
    exact accounted_of_processed dependable makes dispatches processed fun e member =>
      Excerpt.action_mem_of_parseBytes read e (mem_arrange.mp member)

/-- Every transition of a run comes about in one of the accounted ways. -/
theorem accounted_of_receiveEach (l : Lock) (chunks : List (List UInt8)) (w : ω) :
    ∀ t ∈ (b.receiveEach l chunks w).transitions, Accounted connector b.registry announceActive t := by
  have here := accounted_of_onChunk dependable makes dispatches
  refine receiveEach_induction
    (motive := fun _ _ taken => ∀ t ∈ taken.transitions, Accounted connector b.registry announceActive t)
    (fun _ _ _ member => absurd member List.not_mem_nil) ?_ ?_ l chunks w
  · intro l chunk w h stops
    rw [Received.transitions, List.flatMap_singleton]
    exact here l chunk w
  · intro l chunk w later h taken
    exact List.forall_mem_append.mpr ⟨here l chunk w, taken⟩

end Chunks

/-! ## Action servers -/

/-- A simulated goal succeeds with the text of the simulation, whichever field is reported. -/
theorem runGoal_simulated (text : String) (s : Goal.Schema) (announceActive : Bool) (goal : Goal)
    (w : ω) : runGoal (Simulation.connector text) s announceActive goal w
      = ⟨.ok text, acceptances announceActive s.dataItem 1, w⟩ := by
  have reported : s.report (Simulation.Client.result ⟨s.action, s.resultField, true⟩ text) = .ok text := by
    unfold Goal.Schema.report Simulation.Client.result
    cases s.resultField with
    | none => rfl
    | some field => simp [Goal.Result.text?, Goal.Result.get?, Assoc.get?]
  have collected : collect (Simulation.connector text) s ⟨s.action, s.resultField, true⟩ w
      = (.ok text, w) := by
    simp only [collect, Simulation.connector, if_true, ne_eq, not_true_eq_false, if_false]
    rw [reported]
    rfl
  simp only [runGoal, Simulation.connector] at collected ⊢
  rw [collected]

theorem dispatchAction_simulated (dependable : r.Dependable) {seed : String} {goal : Goal}
    (built : r.build action seed = .ok goal) (text : String) (announceActive : Bool) (w : ω) :
    dispatchAction (Simulation.connector text) r announceActive goal w
      = ⟨.ok text, acceptances announceActive (DataItem.name action) 1, w⟩ := by
  obtain ⟨s, known, runs⟩ := exists_runGoal_of_build dependable built
  have item : s.dataItem = DataItem.name action :=
    congrArg DataItem.name (Registry.action_of_get? known)
  rw [runs, runGoal_simulated, item]

theorem outcome_simulated_ne_crash (text : String) (r : Registry) (announceActive : Bool) (goal : Goal)
    (w : ω) (x : Crash) :
    (dispatchAction (Simulation.connector text) r announceActive goal w).outcome ≠ .crash x := by
  rw [dispatchAction]
  intro crash
  split at crash
  · cases crash
  · split at crash
    · cases crash
    · rw [runGoal_simulated] at crash
      cases crash

end Bridge

/-! ## Configurations -/

namespace Config
open Bridge Handshake

/-- What comes of requests where actions are simulated: every goal that can be made succeeds with the
    configured text, and so does the request that it is made for. -/
structure Simulates (c : Config) (b : Bridge Http.Network) : Prop where
  goals : ∀ action seed goal w, c.actions.build action seed = .ok goal →
    b.collaborators.dispatcher goal w = ⟨.ok c.dispatch.simulatedResult,
      acceptances c.dispatch.announceActive (DataItem.name action) 1, w⟩
  requests : ∀ m e w goal w₁, e.action ∈ c.actions.actions → e.state = .active →
    m.inFlight ≠ some e.handshake → b.collaborators.goals e.action w = (.ok goal, w₁) →
    (apply b.collaborators m e w).result
      = .ok (.dispatched e.action e.handshake c.dispatch.simulatedResult m.inFlight)
  results : ∀ l chunks w action handshake result superseded,
    .dispatched action handshake result superseded ∈ (b.receiveEach l chunks w).transitions →
    result = c.dispatch.simulatedResult
  calm : ∀ x, ¬ CrashesWith b.collaborators x

/-- The dispatcher of a configuration is one of two. -/
theorem dispatcher_cases {c : Config} {simulate : Bool} {d : Dispatcher Http.Network}
    (wired : c.dispatcher simulate = .ok d) :
    (simulate = true ∧ d = dispatchAction (Simulation.connector c.dispatch.simulatedResult) c.actions
        c.dispatch.announceActive) ∨
      ∃ server, simulate = false ∧
        d = dispatchAction (Gateway.connector server) c.actions c.dispatch.announceActive := by
  cases simulate with
  | true => exact .inl ⟨rfl, (Except.ok.inj wired).symm⟩
  | false =>
    simp only [dispatcher, Bool.false_eq_true, if_false] at wired
    split at wired
    · cases wired
    · next server configured => exact .inr ⟨server, rfl, (Except.ok.inj wired).symm⟩

theorem simulates_of_dependable {c : Config} (dependable : c.actions.Dependable)
    (documents : DocumentSource Http.Network) :
    Simulates c ⟨c.actions, c.agent.space, ⟨.current documents c.actions c.agent.space,
      dispatchAction (Simulation.connector c.dispatch.simulatedResult) c.actions
        c.dispatch.announceActive⟩⟩ := by
  have makes (action : String) (member : action ∈ c.actions.actions) (w : Http.Network) :
      Makes c.actions action (Goal.Source.current documents c.actions c.agent.space action w).1 :=
    current_makes dependable member documents c.agent.space w
  refine ⟨fun action seed goal w built => dispatchAction_simulated dependable built _ _ w, ?_, ?_, ?_⟩
  · intro m e w goal w₁ member active fresh asked
    have made := makes e.action member w
    dsimp only at asked
    rw [asked] at made
    cases made with
    | goal built =>
      simp only [apply, active, fresh, ne_eq, not_false_eq_true, and_self, if_true, request, asked,
        dispatchAction_simulated dependable built]
  · intro l chunks w action handshake result superseded member
    cases accounted_of_receiveEach dependable makes rfl l chunks w _ member with
    | dispatched known built ended =>
      rw [runGoal_simulated] at ended
      exact (Outcome.ok.inj ended).symm
  · rintro x (⟨action, w, crash⟩ | ⟨goal, w, crash⟩)
    · exact fst_current_ne_crash documents _ _ action w x crash
    · exact outcome_simulated_ne_crash _ _ _ goal w x crash

/-- Whatever source the documents come from and whatever the action server does, a request of a bridge
    with an accepted configuration is dropped for want of a goal or behind the checks of the
    dispatcher. With the dispatcher of the configuration it is dropped because the agent's current
    document is not to be had, has no goal element or has a text there that the first field cannot
    hold, or else by the action server, of which a simulation drops none. So it is never dropped
    because its action is unknown, because its goal has another size than the schema, or on account of
    a later field. -/
theorem reasons_of_parse (file text : String) (c : Config) (accepted : parse file text = .ok c) :
    (∀ (ω σ : Type) (documents : DocumentSource ω) (connector : Connector ω σ) announceActive,
        let b : Bridge ω := ⟨c.actions, c.agent.space, ⟨.current documents c.actions c.agent.space,
          dispatchAction connector c.actions announceActive⟩⟩
        ∀ l chunks w, ∀ t ∈ (b.receiveEach l chunks w).transitions,
          Accounted connector c.actions announceActive t) ∧
      ∀ simulate d, c.dispatcher simulate = .ok d → ∀ documents,
        let b : Bridge Http.Network :=
          { c.bridge d with collaborators := ⟨.current documents c.actions c.agent.space, d⟩ }
        (∀ l chunks w action handshake fault,
            .dispatchFailed action handshake fault ∈ (b.receiveEach l chunks w).transitions →
            Unmade c.actions action fault ∨ simulate = false ∧ Gateway.Fails action fault) ∧
          (simulate = true → Simulates c b) := by
  obtain ⟨s, read, registers⟩ := registers_of_parse accepted
  have dependable : c.actions.Dependable := dependable_of_registers registers
  have accounted (ω σ : Type) (documents : DocumentSource ω) (connector : Connector ω σ)
      (announceActive : Bool) (l : Lock) (chunks : List (List UInt8)) (w : ω) :
      ∀ t ∈ (Bridge.receiveEach ⟨c.actions, c.agent.space,
          ⟨.current documents c.actions c.agent.space, dispatchAction connector c.actions announceActive⟩⟩
          l chunks w).transitions,
        Accounted connector c.actions announceActive t :=
    accounted_of_receiveEach dependable
      (fun action member w => current_makes dependable member documents c.agent.space w) rfl l chunks w
  refine ⟨accounted, fun simulate d wired documents => ?_⟩
  rcases dispatcher_cases wired with ⟨rfl, rfl⟩ | ⟨server, rfl, rfl⟩
  · refine ⟨fun l chunks w action handshake fault member => .inl ?_,
      fun _ => simulates_of_dependable dependable documents⟩
    cases accounted _ _ documents _ _ l chunks w _ member with
    | unmade reason => exact reason
    | failed known built ended =>
      rw [runGoal_simulated] at ended
      cases ended
  · refine ⟨fun l chunks w action handshake fault member => ?_, nofun⟩
    cases accounted _ _ documents _ _ l chunks w _ member with
    | unmade reason => exact .inl reason
    | failed known built ended =>
      have fails := Gateway.fails_of_runGoal ended
      rw [Registry.action_of_get? known] at fails
      exact .inr ⟨rfl, fails⟩

/-- A configuration of an action that reports a field of its result. -/
def simulatedText : String :=
  "[agent]\nurl = \"http://a\"\nnamespace = \"urn:m\"\n\n[dispatch]\nsimulated_result = \"DONE\"\n\n"
    ++ "[actions.m.Drill]\ngoal_element = \"Depth\"\nresult_field = \"hole\"\n"
    ++ "fields = [\x7b key = \"depth\", kind = \"integer\" \x7d]\n"

/-- A request is dropped whose goal element has no integer, and a goal that can be made succeeds. -/
theorem reasons_of_parse_simulated :
    ∃ c d, parse "bridge.toml" simulatedText = .ok c ∧ c.dispatcher true = .ok d ∧
      Unmade c.actions "Drill" (.invalidField "Drill" "depth" "deep") ∧
      ∃ goal, c.actions.build "Drill" "7" = .ok goal ∧ ∀ w, (d goal w).outcome = .ok "DONE" := by
  let documents : DocumentSource Http.Network := fun w =>
    (.ok "<s xmlns=\"urn:m\"><Header nextSequence=\"7\"/><Depth>deep</Depth></s>", w)
  let bridge (c : Config) (d : Dispatcher Http.Network) : Bridge Http.Network :=
    { c.bridge d with collaborators := ⟨.current documents c.actions c.agent.space, d⟩ }
  let simulated (c : Config) : Dispatcher Http.Network :=
    dispatchAction (Simulation.connector c.dispatch.simulatedResult) c.actions c.dispatch.announceActive
  have ran : (parse "bridge.toml" simulatedText).toOption.map (fun c =>
      (c.dispatch.simulatedResult, c.actions.build "Drill" "7",
        ((bridge c (simulated c)).receiveEach {}
          [(pageOf "<Drill name=\"h\">ACTIVE</Drill>").body] {}).transitions))
        = some ("DONE", .ok ⟨"Drill", [("depth", .integer 7)]⟩,
          [.dispatchFailed "Drill" "h" (.invalidField "Drill" "depth" "deep")]) := by
    decide +kernel
  cases accepted : parse "bridge.toml" simulatedText with
  | error fault =>
    rw [accepted] at ran
    cases ran
  | ok c =>
    rw [accepted] at ran
    obtain ⟨text, others⟩ := Prod.mk.inj (Option.some.inj ran)
    obtain ⟨built, transitions⟩ := Prod.mk.inj others
    obtain ⟨reasons, simulates⟩ :=
      (reasons_of_parse "bridge.toml" simulatedText c accepted).2 true (simulated c) rfl documents
    refine ⟨c, simulated c, rfl, rfl, ?_, _, built, fun w => ?_⟩
    · rcases reasons {} _ {} "Drill" "h" _ (transitions ▸ List.mem_cons_self) with reason | ⟨live, -⟩
      · exact reason
      · cases live
    · have succeeds := (simulates rfl).goals "Drill" "7" _ w built
      rw [text] at succeeds
      exact congrArg Dispatched.outcome succeeds

end Config
end ActionBridge
