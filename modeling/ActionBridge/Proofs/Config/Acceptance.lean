import ActionBridge.Proofs.Config.Flaws
import ActionBridge.Proofs.Toml.Keys

/-!
# Acceptable configurations

Sections become a configuration exactly if they are acceptable: the agent and the action server have
web addresses, numbers are positive, texts are not blank, and all actions have names of their own and
fields that can be filled (`Acceptable`). What is not acceptable has a flaw (`ofSections_accepts`).
-/
namespace ActionBridge.Config

variable {f : Section.Field} {fault : ActionFault} {a : WrittenAction} {s : Sections}
  {groups : List (String × List (String × Section.Action))} {cause : ConfigFault}

/-! ## What is acceptable -/

/-- A later field has a default that its kind reads. -/
def Section.Field.HasDefault (f : Section.Field) : Prop :=
  ∃ kind v text, Goal.Kind.ofName? f.kind = some kind ∧ f.default = some v ∧
    scalarText? v = some text ∧ (kind.read? text).isSome

structure Section.Action.Acceptable (s : Section.Action) : Prop where
  goalElement : Text.isAllBlank s.goalElement = false
  fields : s.fields ≠ []
  keys : ∀ f ∈ s.fields, Text.isAllBlank f.key = false
  distinct : (s.fields.map (·.key)).Nodup
  kinds : ∀ f ∈ s.fields, ∃ kind, Goal.Kind.ofName? f.kind = some kind
  first : ∀ f ∈ s.fields.head?, f.default = none
  later : ∀ f ∈ s.fields.tail, f.HasDefault

structure Section.Agent.Acceptable (s : Section.Agent) : Prop where
  url : WebUrl (tidyUrl s.url)
  interval : ∀ n ∈ s.interval, 1 ≤ n
  count : ∀ n ∈ s.count, 1 ≤ n
  space : ∀ name ∈ s.space, Text.isAllBlank name = false

/-- The names of the actions in a group. -/
def namesIn (g : String × List (String × Section.Action)) : List String := g.2.map Prod.fst

/-- What is asked of the sections of a configuration. What is missing takes a default, which is
    acceptable. -/
structure Acceptable (s : Sections) : Prop where
  agent : s.agent.Acceptable
  listen : ∀ a ∈ s.adapter, ∀ address ∈ a.listen, Text.isAllBlank address = false
  heartbeat : ∀ a ∈ s.adapter, ∀ n ∈ a.heartbeat, 1 ≤ n
  level : ∀ l ∈ s.log, Text.isAllBlank l.level = false
  poll : ∀ d ∈ s.dispatch, ∀ n ∈ d.poll, 1 ≤ n
  server : ∀ d ∈ s.dispatch, ∀ url ∈ d.server, tidyUrl url = "" ∨ WebUrl (tidyUrl url)
  spaces : ∀ g ∈ s.actions, Text.isAllBlank g.1 = false
  names : ∀ g ∈ s.actions, ∀ name ∈ namesIn g, Text.isAllBlank name = false
  apart : s.actions.Pairwise fun g h => ∀ name ∈ namesIn g, name ∉ namesIn h
  nonempty : ∃ g ∈ s.actions, g.2 ≠ []
  actions : ∀ g ∈ s.actions, ∀ e ∈ g.2, e.2.Acceptable

/-- Each group has a name once, as it is in a table. -/
def Sections.Keyed (s : Sections) : Prop := ∀ g ∈ s.actions, (namesIn g).Nodup

/-! ## Names -/

theorem names_writtenActions : (writtenActions groups).map (·.action) = groups.flatMap namesIn := by
  rw [writtenActions, List.map_flatMap]
  exact List.flatMap_congr fun g _ => action_writtenIn

theorem mem_writtenActions :
    a ∈ writtenActions groups ↔ ∃ g ∈ groups, ∃ e ∈ g.2, ⟨g.1, e.1, e.2⟩ = a := by
  simp only [writtenActions, writtenIn, List.mem_flatMap, List.mem_map]

/-- All names differ exactly if those of each group do and no two groups have one in common. -/
theorem nodup_names_iff : ((writtenActions groups).map (·.action)).Nodup ↔
    (∀ g ∈ groups, (namesIn g).Nodup) ∧
      groups.Pairwise fun g h => ∀ name ∈ namesIn g, name ∉ namesIn h := by
  rw [names_writtenActions, List.nodup_flatMap]
  rfl

theorem writtenActions_eq_nil_iff : writtenActions groups = [] ↔ ¬ ∃ g ∈ groups, g.2 ≠ [] := by
  simp [writtenActions, writtenIn]

/-! ## Accepted configurations -/

theorem hasDefault_of_filled {spec : Goal.Field} (filled : Filled f spec) : f.HasDefault := by
  obtain ⟨v, text, given, written, reads, -⟩ := filled.default
  exact ⟨spec.kind, v, text, filled.kind, given, written, reads⟩

theorem acceptable_of_describes {schema : Goal.Schema} (describes : Describes a schema) :
    a.entry.Acceptable := by
  obtain ⟨-, -, solid, -, keys, fields, -⟩ := describes
  generalize schema.fields = specs at fields
  obtain ⟨space, action, goalElement, listed, resultField⟩ := a
  dsimp only at solid keys fields ⊢
  cases fields with
  | @cons f fs spec specs first filled =>
    have later : ∀ g ∈ fs, g.HasDefault := by
      intro g member
      obtain ⟨spec, -, here⟩ := exists_mem_of_forall₂ filled member
      exact hasDefault_of_filled here
    refine ⟨solid, List.cons_ne_nil _ _, ?_, keys.distinct, ?_, ?_, later⟩
    · intro g member
      exact keys.solid g.key (List.mem_map_of_mem member)
    · intro g member
      rcases List.mem_cons.mp member with rfl | member
      · exact ⟨_, first.kind⟩
      · obtain ⟨kind, -, -, known, -⟩ := later g member
        exact ⟨kind, known⟩
    · intro g head
      obtain rfl : f = g := by simpa using head
      exact first.bare

theorem acceptable_of_agentOf {section₁ : Section.Agent} {agent : Agent}
    (made : agentOf section₁ = .ok agent) : section₁.Acceptable := by
  simp only [agentOf, bind_eq_ok, require_eq_ok, exists_const, positive_eq_ok, notBlank_eq_ok,
    isWebUrl_iff] at made
  obtain ⟨url, interval, ⟨rfl, frequent⟩, count, ⟨rfl, counted⟩, space, ⟨rfl, solid⟩, -⟩ := made
  refine ⟨url, ?_, ?_, ?_⟩
  · rintro n given
    rwa [given] at frequent
  · rintro n given
    rwa [given] at counted
  · rintro name given
    rwa [given] at solid

theorem serverOf_eq_ok {server served : Option String} (made : serverOf server = .ok served) :
    ∀ url ∈ server, tidyUrl url = "" ∨ WebUrl (tidyUrl url) := by
  intro url given
  by_contra neither
  obtain ⟨some, other⟩ := not_or.mp neither
  have failed := serverOf_eq_error.mpr ⟨url, given, some, other, rfl⟩
  exact nomatch made.symm.trans failed

theorem acceptable_of_ofSections {c : Config} (made : ofSections s = .ok c) : Acceptable s := by
  simp only [ofSections, adapterOf, dispatchOf, bind_eq_ok, pure_eq_ok, positive_eq_ok,
    notBlank_eq_ok] at made
  obtain ⟨agent, agentMade, -, ⟨listen, ⟨rfl, solid⟩, heartbeat, ⟨rfl, alive⟩, -⟩, level, ⟨rfl, shown⟩,
    -, ⟨poll, ⟨rfl, patient⟩, server, served, -⟩, registry, registered, -⟩ := made
  obtain ⟨spaces, fresh, nonempty, described⟩ := (registryOf_eq_ok.mp registered).1
  refine
    { agent := acceptable_of_agentOf agentMade
      listen := ?_, heartbeat := ?_, level := ?_, poll := ?_, server := ?_
      spaces := spaces
      names := ?_
      apart := (nodup_names_iff.mp fresh.distinct).2
      nonempty := not_not.mp (mt writtenActions_eq_nil_iff.mpr nonempty)
      actions := ?_ }
  · intro a present address given
    rwa [present, Option.bind_some, given] at solid
  · intro a present n given
    rwa [present, Option.bind_some, given] at alive
  · intro l present
    rwa [present] at shown
  · intro d present n given
    rwa [present, Option.bind_some, given] at patient
  · intro d present
    rw [present, Option.bind_some] at served
    exact serverOf_eq_ok served
  · intro g member name among
    have listed : name ∈ s.actions.flatMap namesIn := List.mem_flatMap.mpr ⟨g, member, among⟩
    exact fresh.solid name (names_writtenActions ▸ listed)
  · intro g member e among
    have written := mem_writtenActions.mpr ⟨g, member, e, among, rfl⟩
    obtain ⟨schema, -, describes⟩ := exists_mem_of_forall₂ described written
    exact acceptable_of_describes describes

/-! ## Acceptable sections -/

theorem Section.Action.Acceptable.not_flaw {entry : Section.Action} (acceptable : entry.Acceptable) :
    ¬ entry.Flaw fault := by
  intro flaw
  cases flaw with
  | goalElementBlank blank => exact nomatch blank.symm.trans acceptable.goalElement
  | noFields none => exact acceptable.fields none
  | @field before after f fault split flaw =>
    have member : f ∈ entry.fields := by simp [split]
    have later (given : before.isEmpty = false) : f.HasDefault := by
      apply acceptable.later
      cases before with
      | nil => cases given
      | cons g before => simp [split]
    generalize first : before.isEmpty = isFirst at flaw
    cases flaw with
    | keyBlank blank => exact nomatch blank.symm.trans (acceptable.keys f member)
    | keyRepeated again =>
      have distinct := acceptable.distinct
      rw [split, List.map_append, List.map_cons] at distinct
      exact (List.nodup_append.mp distinct).2.2 _ again _ List.mem_cons_self rfl
    | kindUnknown unknown =>
      obtain ⟨kind, known⟩ := acceptable.kinds f member
      exact nomatch unknown.symm.trans known
    | defaultOnFirst given =>
      have head : f ∈ entry.fields.head? := by simp [split, List.isEmpty_iff.mp first]
      exact nomatch given.symm.trans (acceptable.first f head)
    | defaultMissing bare =>
      obtain ⟨-, v, -, -, given, -⟩ := later first
      exact nomatch bare.symm.trans given
    | defaultNotScalar given unwritten =>
      obtain ⟨-, v, text, -, same, written, -⟩ := later first
      obtain rfl := Option.some.inj (given.symm.trans same)
      exact nomatch unwritten.symm.trans written
    | defaultInvalid given written known unread =>
      obtain ⟨kind, v, text, known₁, same, written₁, reads⟩ := later first
      obtain rfl := Option.some.inj (given.symm.trans same)
      obtain rfl := Option.some.inj (written.symm.trans written₁)
      obtain rfl := Option.some.inj (known.symm.trans known₁)
      simp [unread] at reads

theorem Acceptable.not_flaw (acceptable : Acceptable s) (keyed : s.Keyed) : ¬ Flaw s cause := by
  intro flaw
  cases flaw with
  | agentUrl other => exact other acceptable.agent.url
  | agentInterval zero => exact absurd (acceptable.agent.interval 0 zero) (by decide)
  | agentCount zero => exact absurd (acceptable.agent.count 0 zero) (by decide)
  | agentNamespace given blank => exact nomatch blank.symm.trans (acceptable.agent.space _ given)
  | adapterListen present given blank =>
    exact nomatch blank.symm.trans (acceptable.listen _ present _ given)
  | adapterHeartbeat present zero => exact absurd (acceptable.heartbeat _ present 0 zero) (by decide)
  | logLevel present blank => exact nomatch blank.symm.trans (acceptable.level _ present)
  | dispatchPoll present zero => exact absurd (acceptable.poll _ present 0 zero) (by decide)
  | dispatchServer present given nonempty other =>
    exact (acceptable.server _ present _ given).elim nonempty other
  | namespaceBlank member blank => exact nomatch blank.symm.trans (acceptable.spaces _ member)
  | noActions none => exact writtenActions_eq_nil_iff.mp none acceptable.nonempty
  | @action before after a _ split flaw =>
    have written : a ∈ writtenActions s.actions := by simp [split]
    obtain ⟨g, member, e, among, rfl⟩ := mem_writtenActions.mp written
    cases flaw with
    | blank blank =>
      exact nomatch blank.symm.trans (acceptable.names g member _ (List.mem_map_of_mem among))
    | repeated again =>
      have distinct := nodup_names_iff.mpr ⟨keyed, acceptable.apart⟩
      rw [split, List.map_append, List.map_cons] at distinct
      exact (List.nodup_append.mp distinct).2.2 _ again _ List.mem_cons_self rfl
    | entry flaw => exact (acceptable.actions g member e among).not_flaw flaw

theorem exists_ofSections_iff (keyed : s.Keyed) : (∃ c, ofSections s = .ok c) ↔ Acceptable s := by
  constructor
  · rintro ⟨c, made⟩
    exact acceptable_of_ofSections made
  · intro acceptable
    cases made : ofSections s with
    | ok c => exact ⟨c, rfl⟩
    | error cause => exact absurd (flaw_of_ofSections made) (acceptable.not_flaw keyed)

/-! ## Decoded sections -/

theorem keys_of_decodedEntries {α : Type} {item : Toml.Decoder α} {written : List (String × Toml.Value)}
    {entries : List (String × α)}
    (paired : List.Forall₂ (fun w e => (item w.2).map ((w.1, ·)) = .ok e) written entries) :
    entries.map Prod.fst = written.map Prod.fst ∧
      ∀ e ∈ entries, ∃ w ∈ written, item w.2 = .ok e.2 := by
  induction paired with
  | nil => exact ⟨rfl, nofun⟩
  | @cons w e written entries here _ ih =>
    obtain ⟨a, decoded, rfl⟩ := map_eq_ok.mp here
    refine ⟨by rw [List.map_cons, List.map_cons, ih.1], List.forall_mem_cons.mpr ⟨?_, ?_⟩⟩
    · exact ⟨w, List.mem_cons_self, decoded⟩
    · intro e member
      obtain ⟨w, among, decoded⟩ := ih.2 e member
      exact ⟨w, List.mem_cons_of_mem _ among, decoded⟩

/-- What is decoded of a table has the keys of the table. -/
theorem keys_of_decodeTable {α : Type} {item : Toml.Decoder α} {v : Toml.Value}
    {entries : List (String × α)} (keyed : v.Keyed) (decoded : Toml.decodeTable item v = .ok entries) :
    (entries.map Prod.fst).Nodup ∧ ∀ e ∈ entries, ∃ w, w.Keyed ∧ item w = .ok e.2 := by
  cases keyed with
  | table keys inner =>
    obtain ⟨same, each⟩ := keys_of_decodedEntries (mapM_eq_ok.mp decoded)
    refine ⟨same ▸ keys, ?_⟩
    intro e member
    obtain ⟨w, among, made⟩ := each e member
    exact ⟨w.2, inner w among, made⟩
  | datetime text =>
    obtain ⟨a, made, rfl⟩ := map_eq_ok.mp decoded
    refine ⟨List.nodup_singleton _, ?_⟩
    exact List.forall_mem_singleton.mpr ⟨.string text, .string text, made⟩
  | _ => cases decoded

/-- The sections of a text name each action of a group once. -/
theorem keyed_of_sections {text : String} (decoded : sections text = .ok s) : s.Keyed := by
  rw [sections] at decoded
  split at decoded
  · cases decoded
  · next entries read =>
    have keyed := Toml.keyed_of_read read
    rw [mapError_eq_ok] at decoded
    simp only [decodeSections, bind_eq_ok, pure_eq_ok] at decoded
    obtain ⟨entries₁, visited, -, -, -, -, -, -, -, -, actions, required, rfl⟩ := decoded
    obtain ⟨-, -, same⟩ := bind_eq_ok.mp visited
    obtain rfl := Except.ok.inj same
    rw [Toml.requiredField] at required
    split at required
    · next v found =>
      cases keyed with
      | table keys inner =>
        obtain ⟨before, after, rfl, -⟩ := List.lookup_eq_some_iff.mp found
        have tabled : v.Keyed := inner ("actions", v) (by simp)
        have decoded : Toml.decodeTable (Toml.decodeTable decodeAction) v = .ok actions := required
        have groups := (keys_of_decodeTable tabled decoded).2
        intro g member
        obtain ⟨w, tabled, decoded⟩ := groups g member
        exact (keys_of_decodeTable tabled decoded).1
    · cases required

/-! ## Acceptance -/

/-- Sections with the keys of tables are accepted exactly if they are acceptable. Then the registry has
    exactly the actions that are written, in their order, each with the fields that are written for it
    in their order. Sections that are not accepted have the flaw that is reported, and a text with
    these sections is an invalid configuration on account of it. -/
theorem ofSections_accepts (s : Sections) (keyed : s.Keyed) :
    ((∃ c, ofSections s = .ok c) ↔ Acceptable s) ∧
      (∀ c, ofSections s = .ok c →
        c.actions.actions = (writtenActions s.actions).map (·.action) ∧
          List.Forall₂ Describes (writtenActions s.actions) c.actions.schemas) ∧
      ∀ fault, ofSections s = .error fault → Flaw s fault ∧ ∀ file text, sections text = .ok s →
        parse file text = .error (.invalidConfig (some file) fault) := by
  refine ⟨exists_ofSections_iff keyed, ?_, ?_⟩
  · intro c made
    have registers := registers_of_ofSections made
    exact ⟨registers.actions, registers.described⟩
  · intro fault failed
    refine ⟨flaw_of_ofSections failed, ?_⟩
    intro file text decoded
    rw [parse, mapError_eq_error]
    exact ⟨fault, bind_eq_error.mpr (.inr ⟨s, decoded, failed⟩), rfl⟩

/-- Two groups with an action each, and a server of which nothing is left. -/
def groupsText : String :=
  "[agent]\nurl = \" https://a// \"\n\n[dispatch]\nserver = \" / \"\n\n"
    ++ "[actions.m.Load]\ngoal_element = \"Material\"\nfields = ["
    ++ "\x7b key = \"material\", kind = \"text\" \x7d, "
    ++ "\x7b key = \"length\", kind = \"Float\", default = 3 \x7d]\n\n"
    ++ "[actions.n.Unload]\ngoal_element = \"Material\"\nfields = ["
    ++ "\x7b key = \"material\", kind = \"text\" \x7d]\n"

/-- The two groups are accepted. With a blank level of the log they are not. -/
theorem ofSections_accepts_groups :
    ∃ s c, sections groupsText = .ok s ∧ s.Keyed ∧ Acceptable s ∧ ofSections s = .ok c ∧
      c.actions.actions = (writtenActions s.actions).map (·.action) ∧
      c.actions.actions = ["Load", "Unload"] ∧ Flaw { s with log := some ⟨" "⟩ } .logLevel := by
  have made : (sections groupsText).toOption.map
      (fun s => ((ofSections s).toOption.map (·.actions.actions),
        match ofSections { s with log := some ⟨" "⟩ } with
        | .ok _ => none
        | .error fault => some fault)) = some (some ["Load", "Unload"], some .logLevel) := by
    decide +kernel
  cases decoded : sections groupsText with
  | error fault =>
    rw [decoded] at made
    cases made
  | ok s =>
    rw [decoded] at made
    obtain ⟨named, refused⟩ := Prod.mk.inj (Option.some.inj made)
    have keyed := keyed_of_sections decoded
    obtain ⟨accepts, lists, -⟩ := ofSections_accepts s keyed
    obtain ⟨-, -, refuses⟩ := ofSections_accepts { s with log := some ⟨" "⟩ } keyed
    cases accepted : ofSections s with
    | error fault =>
      rw [accepted] at named
      cases named
    | ok c =>
      rw [accepted] at named
      refine ⟨s, c, rfl, keyed, accepts.mp ⟨c, accepted⟩, accepted, (lists c accepted).1,
        Option.some.inj named, ?_⟩
      split at refused
      · cases refused
      · next fault failed =>
        obtain rfl := Option.some.inj refused
        exact (refuses .logLevel failed).1

end ActionBridge.Config
