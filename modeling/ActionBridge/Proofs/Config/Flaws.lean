import ActionBridge.Proofs.Config.Actions

/-!
# Flaws of configurations

What can be wrong with the sections of a configuration, from a single field up to the whole (`Flaw`).
The fault for which a configuration is refused is a flaw that it has, and names the section, action or
field that has it (`flaw_of_ofSections`).
-/
namespace ActionBridge.Config

/-! ## Web addresses -/

/-- Something stands behind the scheme. -/
def WebUrl (url : String) : Prop :=
  ∃ host, host ≠ "" ∧ (url = "http://" ++ host ∨ url = "https://" ++ host)

theorem exists_host_iff (scheme url : String) :
    (scheme.toList.isPrefixOf url.toList && scheme.length < url.toList.length) = true ↔
      ∃ host, host ≠ "" ∧ url = scheme ++ host := by
  rw [Bool.and_eq_true, List.isPrefixOf_iff_prefix, decide_eq_true_eq, ← String.length_toList]
  constructor
  · rintro ⟨⟨host, split⟩, longer⟩
    refine ⟨String.ofList host, ?_, ?_⟩
    · intro none
      have empty : host = [] := by simpa using congrArg String.toList none
      rw [empty, List.append_nil] at split
      rw [split] at longer
      exact Nat.lt_irrefl _ longer
    · apply String.toList_inj.mp
      simp [← split]
  · rintro ⟨host, some, rfl⟩
    have nonempty : host.toList ≠ [] := by simpa using some
    have positive := List.length_pos_iff.mpr nonempty
    refine ⟨⟨host.toList, by simp⟩, ?_⟩
    rw [String.toList_append, List.length_append]
    omega

theorem isWebUrl_iff {url : String} : isWebUrl url = true ↔ WebUrl url := by
  simp only [isWebUrl, List.any_cons, List.any_nil, Bool.or_false, Bool.or_eq_true, exists_host_iff]
  constructor
  · rintro (⟨host, some, same⟩ | ⟨host, some, same⟩)
    · exact ⟨host, some, .inl same⟩
    · exact ⟨host, some, .inr same⟩
  · rintro ⟨host, some, same | same⟩
    · exact .inl ⟨host, some, same⟩
    · exact .inr ⟨host, some, same⟩

/-! ## Numbers and texts -/

section Values

variable {fault e : ConfigFault}

theorem positive_eq_ok {fallback m : Nat} {n : Option Nat} :
    positive fault fallback n = .ok m ↔ n.getD fallback = m ∧ 1 ≤ m := by
  by_cases zero : n.getD fallback = 0
  · simp [positive, zero]
    omega
  · simp [positive, zero]
    omega

theorem positive_eq_error {fallback : Nat} (usual : fallback ≠ 0) {n : Option Nat} :
    positive fault fallback n = .error e ↔ n = some 0 ∧ fault = e := by
  cases n with
  | none => simp [positive, usual]
  | some n => by_cases zero : n = 0 <;> simp [positive, zero]

theorem notBlank_eq_ok {fallback t : String} {s : Option String} :
    notBlank fault fallback s = .ok t ↔ s.getD fallback = t ∧ Text.isAllBlank t = false := by
  cases blank : Text.isAllBlank (s.getD fallback) with
  | true =>
    simp only [notBlank, blank, if_true]
    refine ⟨nofun, ?_⟩
    rintro ⟨rfl, solid⟩
    exact nomatch blank.symm.trans solid
  | false =>
    simp only [notBlank, blank, Bool.false_eq_true, if_false, Except.ok.injEq]
    refine ⟨?_, And.left⟩
    rintro rfl
    exact ⟨rfl, blank⟩

theorem notBlank_eq_error {fallback : String} (usual : Text.isAllBlank fallback = false)
    {s : Option String} :
    notBlank fault fallback s = .error e ↔
      ∃ t, s = some t ∧ Text.isAllBlank t = true ∧ fault = e := by
  cases s with
  | none => simp [notBlank, usual]
  | some t => cases blank : Text.isAllBlank t <;> simp [notBlank, blank]

end Values

/-! ## Flaws of actions -/

/-- What can be wrong with a field behind fields with the keys `seen`. -/
inductive Section.Field.Flaw (seen : List String) (f : Section.Field) : (isFirst : Bool) → ActionFault → Prop
  | keyBlank {isFirst : Bool} (blank : Text.isAllBlank f.key = true) : Flaw seen f isFirst .keyBlank
  | keyRepeated {isFirst : Bool} (again : f.key ∈ seen) : Flaw seen f isFirst (.keyRepeated f.key)
  | kindUnknown {isFirst : Bool} (unknown : Goal.Kind.ofName? f.kind = none) :
      Flaw seen f isFirst (.kindUnknown f.key f.kind)
  | defaultOnFirst {v : Toml.Value} (given : f.default = some v) :
      Flaw seen f true (.defaultOnFirst (Text.trim f.key))
  | defaultMissing (bare : f.default = none) : Flaw seen f false (.defaultMissing (Text.trim f.key))
  | defaultNotScalar {v : Toml.Value} (given : f.default = some v) (unwritten : scalarText? v = none) :
      Flaw seen f false (.defaultNotScalar f.key)
  | defaultInvalid {v : Toml.Value} {text : String} {kind : Goal.Kind} (given : f.default = some v)
      (written : scalarText? v = some text) (known : Goal.Kind.ofName? f.kind = some kind)
      (unread : kind.read? text = none) : Flaw seen f false (.defaultInvalid f.key text kind)

/-- What can be wrong with an action. -/
inductive Section.Action.Flaw (s : Section.Action) : ActionFault → Prop
  | goalElementBlank (blank : Text.isAllBlank s.goalElement = true) : Flaw s .goalElementBlank
  | noFields (none : s.fields = []) : Flaw s .noFields
  | field {before after : List Section.Field} {f : Section.Field} {fault : ActionFault}
      (split : s.fields = before ++ f :: after)
      (flaw : f.Flaw (before.map (·.key)) before.isEmpty fault) : Flaw s fault

variable {seen : List String} {f : Section.Field} {fs : List Section.Field} {kind : Goal.Kind}
  {isFirst : Bool} {fault : ActionFault}

theorem textOfDefault_eq_error {key : String} {v : Toml.Value} :
    textOfDefault key kind v = .error fault ↔
      (scalarText? v = none ∧ fault = .defaultNotScalar key) ∨
        ∃ text, scalarText? v = some text ∧ kind.read? text = none ∧
          fault = .defaultInvalid key text kind := by
  rw [textOfDefault]
  cases scalarText? v with
  | none => simp [eq_comm]
  | some text =>
    cases read : kind.read? text <;> simp [read, eq_comm]

theorem flaw_of_defaultOf (known : Goal.Kind.ofName? f.kind = some kind)
    (failed : defaultOf isFirst f kind = .error fault) : f.Flaw seen isFirst fault := by
  rw [defaultOf.eq_def] at failed
  cases isFirst with
  | true =>
    cases given : f.default with
    | none => simp [given] at failed
    | some v =>
      simp only [given, Except.error.injEq] at failed
      exact failed ▸ .defaultOnFirst given
  | false =>
    cases given : f.default with
    | none =>
      simp only [given, Except.error.injEq] at failed
      exact failed ▸ .defaultMissing given
    | some v =>
      cases made : textOfDefault f.key kind v with
      | ok text => simp [given, made, Except.map] at failed
      | error cause =>
        simp only [given, made, Except.map, Except.error.injEq] at failed
        subst failed
        rcases textOfDefault_eq_error.mp made with ⟨unwritten, rfl⟩ | ⟨text, written, unread, rfl⟩
        · exact .defaultNotScalar given unwritten
        · exact .defaultInvalid given written known unread

theorem flaw_of_fieldOf (failed : fieldOf seen isFirst f = .error fault) :
    f.Flaw seen isFirst fault := by
  simp only [fieldOf, bind_eq_error, require_eq_error, require_eq_ok, exists_const, not_not] at failed
  rcases failed with ⟨blank, rfl⟩ | ⟨-, ⟨again, rfl⟩ | ⟨-, failed⟩⟩
  · exact .keyBlank blank
  · exact .keyRepeated again
  · cases known : Goal.Kind.ofName? f.kind with
    | none =>
      simp only [known, Except.error.injEq] at failed
      exact failed ▸ .kindUnknown known
    | some kind =>
      simp only [known, bind_eq_error, pure_eq_error, and_false, exists_false, or_false] at failed
      exact flaw_of_defaultOf known failed

theorem Section.Field.Flaw.mono {others : List String} (flaw : f.Flaw seen isFirst fault)
    (more : ∀ key ∈ seen, key ∈ others) : f.Flaw others isFirst fault := by
  cases flaw with
  | keyBlank blank => exact .keyBlank blank
  | keyRepeated again => exact .keyRepeated (more _ again)
  | kindUnknown unknown => exact .kindUnknown unknown
  | defaultOnFirst given => exact .defaultOnFirst given
  | defaultMissing bare => exact .defaultMissing bare
  | defaultNotScalar given unwritten => exact .defaultNotScalar given unwritten
  | defaultInvalid given written known unread => exact .defaultInvalid given written known unread

/-- Of the fields behind others the one at fault is the first that fails. -/
theorem exists_flaw_of_laterFields (failed : laterFields seen fs = .error fault) :
    ∃ before f after, fs = before ++ f :: after ∧
      f.Flaw (seen ++ before.map (·.key)) false fault := by
  induction fs generalizing seen with
  | nil => simp [laterFields] at failed
  | cons f fs ih =>
    simp only [laterFields, bind_eq_error, pure_eq_error, and_false, exists_false, or_false] at failed
    rcases failed with here | ⟨-, -, later⟩
    · exact ⟨[], f, fs, rfl, by simpa using flaw_of_fieldOf here⟩
    · obtain ⟨before, g, after, rfl, flaw⟩ := ih later
      refine ⟨f :: before, g, after, rfl, flaw.mono ?_⟩
      intro key member
      exact List.perm_middle.mem_iff.mpr member

theorem flaw_of_schemaOf {space action : String} {s : Section.Action}
    (failed : schemaOf space action s = .error fault) : s.Flaw fault := by
  simp only [schemaOf, bind_eq_error, require_eq_error, require_eq_ok, pure_eq_error, and_false,
    exists_false, or_false, exists_const, not_not] at failed
  rcases failed with ⟨blank, rfl⟩ | ⟨-, failed⟩
  · exact .goalElementBlank blank
  · cases listed : s.fields with
    | nil =>
      rw [listed, fieldsOf, Except.error.injEq] at failed
      exact failed ▸ .noFields listed
    | cons f fs =>
      rw [listed] at failed
      simp only [fieldsOf, bind_eq_error, pure_eq_error, and_false, exists_false, or_false] at failed
      rcases failed with first | ⟨-, -, later⟩
      · have split : s.fields = [] ++ f :: fs := listed
        exact .field split (flaw_of_fieldOf first)
      · obtain ⟨before, g, after, same, flaw⟩ := exists_flaw_of_laterFields later
        have split : s.fields = (f :: before) ++ g :: after := listed.trans (congrArg (f :: ·) same)
        exact .field split (by simpa using flaw)

/-! ## Flaws of all actions -/

/-- What can be wrong with an action behind others with the names `seen`. -/
inductive WrittenAction.Flaw (seen : List String) (a : WrittenAction) : ConfigFault → Prop
  | blank (blank : Text.isAllBlank a.action = true) : Flaw seen a (.actionBlank a.space)
  | repeated (again : a.action ∈ seen) : Flaw seen a (.actionRepeated a.action)
  | entry {fault : ActionFault} (flaw : a.entry.Flaw fault) :
      Flaw seen a (.inAction a.space a.action fault)

variable {space : String} {group : List (String × Section.Action)}
  {groups : List (String × List (String × Section.Action))} {a : WrittenAction} {s : Sections}
  {cause : ConfigFault}

theorem WrittenAction.Flaw.mono {others : List String} (flaw : a.Flaw seen cause)
    (more : ∀ name ∈ seen, name ∈ others) : a.Flaw others cause := by
  cases flaw with
  | blank blank => exact .blank blank
  | repeated again => exact .repeated (more _ again)
  | entry flaw => exact .entry flaw

theorem exists_flaw_of_groupSchemas (failed : groupSchemas space seen group = .error cause) :
    ∃ before a after, writtenIn space group = before ++ a :: after ∧
      a.Flaw (seen ++ before.map (·.action)) cause := by
  induction group generalizing seen with
  | nil => simp [groupSchemas] at failed
  | cons e group ih =>
    have split : writtenIn space (e :: group) = ⟨space, e.1, e.2⟩ :: writtenIn space group := rfl
    simp only [groupSchemas, bind_eq_error, require_eq_error, require_eq_ok, mapError_eq_error,
      pure_eq_error, and_false, exists_false, or_false, exists_const, not_not] at failed
    rcases failed with ⟨blank, rfl⟩ | ⟨-, ⟨again, rfl⟩ | ⟨-, ⟨fault, made, rfl⟩ | ⟨-, -, later⟩⟩⟩
    · exact ⟨[], _, _, split, .blank blank⟩
    · exact ⟨[], _, _, split, .repeated (by simpa using again)⟩
    · exact ⟨[], _, _, split, .entry (flaw_of_schemaOf made)⟩
    · obtain ⟨before, a, after, same, flaw⟩ := ih later
      refine ⟨_ :: before, a, after, by rw [split, same, List.cons_append], flaw.mono ?_⟩
      intro name member
      exact List.perm_middle.mem_iff.mpr member

theorem exists_flaw_of_allSchemas (failed : allSchemas seen groups = .error cause) :
    (∃ g ∈ groups, Text.isAllBlank g.1 = true ∧ cause = .namespaceBlank) ∨
      ∃ before a after, writtenActions groups = before ++ a :: after ∧
        a.Flaw (seen ++ before.map (·.action)) cause := by
  induction groups generalizing seen with
  | nil => simp [allSchemas] at failed
  | cons g groups ih =>
    have split : writtenActions (g :: groups) = writtenIn g.1 g.2 ++ writtenActions groups :=
      List.flatMap_cons
    simp only [allSchemas, bind_eq_error, require_eq_error, require_eq_ok, pure_eq_error, and_false,
      exists_false, or_false, exists_const, not_not] at failed
    rcases failed with ⟨blank, rfl⟩ | ⟨-, here | ⟨-, -, later⟩⟩
    · exact .inl ⟨g, List.mem_cons_self, blank, rfl⟩
    · obtain ⟨before, a, after, same, flaw⟩ := exists_flaw_of_groupSchemas here
      exact .inr ⟨before, a, after ++ writtenActions groups, by simp [split, same], flaw⟩
    · rcases ih later with ⟨h, member, blank⟩ | ⟨before, a, after, same, flaw⟩
      · exact .inl ⟨h, List.mem_cons_of_mem _ member, blank⟩
      · refine .inr ⟨writtenIn g.1 g.2 ++ before, a, after, by simp [split, same], flaw.mono ?_⟩
        intro name member
        rw [List.append_assoc] at member
        rw [List.map_append, action_writtenIn]
        exact (List.perm_append_comm_assoc _ _ _).mem_iff.mp member

/-! ## Flaws of configurations -/

/-- What can be wrong with sections. Of several flaws the one that is met first is reported. -/
inductive Flaw (s : Sections) : ConfigFault → Prop
  | agentUrl (other : ¬ WebUrl (tidyUrl s.agent.url)) : Flaw s (.agentUrl s.agent.url)
  | agentInterval (zero : s.agent.interval = some 0) : Flaw s .agentInterval
  | agentCount (zero : s.agent.count = some 0) : Flaw s .agentCount
  | agentNamespace {name : String} (given : s.agent.space = some name)
      (blank : Text.isAllBlank name = true) : Flaw s .agentNamespace
  | adapterListen {a : Section.Adapter} {address : String} (present : s.adapter = some a)
      (given : a.listen = some address) (blank : Text.isAllBlank address = true) :
      Flaw s .adapterListen
  | adapterHeartbeat {a : Section.Adapter} (present : s.adapter = some a)
      (zero : a.heartbeat = some 0) : Flaw s .adapterHeartbeat
  | logLevel {l : Section.Log} (present : s.log = some l) (blank : Text.isAllBlank l.level = true) :
      Flaw s .logLevel
  | dispatchPoll {d : Section.Dispatch} (present : s.dispatch = some d) (zero : d.poll = some 0) :
      Flaw s .dispatchPoll
  | dispatchServer {d : Section.Dispatch} {url : String} (present : s.dispatch = some d)
      (given : d.server = some url) (nonempty : tidyUrl url ≠ "") (other : ¬ WebUrl (tidyUrl url)) :
      Flaw s .dispatchServer
  | namespaceBlank {g : String × List (String × Section.Action)} (member : g ∈ s.actions)
      (blank : Text.isAllBlank g.1 = true) : Flaw s .namespaceBlank
  | action {before after : List WrittenAction} {a : WrittenAction} {fault : ConfigFault}
      (split : writtenActions s.actions = before ++ a :: after)
      (flaw : a.Flaw (before.map (·.action)) fault) : Flaw s fault
  | noActions (none : writtenActions s.actions = []) : Flaw s .noActions

theorem flaw_of_agentOf (failed : agentOf s.agent = .error cause) : Flaw s cause := by
  have solid : Text.isAllBlank defaultNamespace = false := by decide +kernel
  simp only [agentOf, bind_eq_error, require_eq_error, require_eq_ok, pure_eq_error, exists_const,
    positive_eq_error (show 1000 ≠ 0 by decide), notBlank_eq_error solid, isWebUrl_iff, and_false,
    or_false] at failed
  rcases failed with ⟨other, rfl⟩ | ⟨-, ⟨zero, rfl⟩ | ⟨-, -, ⟨zero, rfl⟩ | ⟨-, -, name, given, blank, rfl⟩⟩⟩
  · exact .agentUrl other
  · exact .agentInterval zero
  · exact .agentCount zero
  · exact .agentNamespace given blank

theorem flaw_of_adapterOf (failed : adapterOf s.adapter = .error cause) : Flaw s cause := by
  have solid : Text.isAllBlank "0.0.0.0:7878" = false := by decide +kernel
  simp only [adapterOf, bind_eq_error, pure_eq_error, positive_eq_error (show 10000 ≠ 0 by decide),
    notBlank_eq_error solid, Option.bind_eq_some_iff, and_false, exists_false, or_false] at failed
  rcases failed with ⟨address, ⟨a, present, given⟩, blank, rfl⟩ | ⟨-, -, ⟨a, present, zero⟩, rfl⟩
  · exact .adapterListen present given blank
  · exact .adapterHeartbeat present zero

theorem serverOf_eq_error {server : Option String} : serverOf server = .error cause ↔
    ∃ url, server = some url ∧ tidyUrl url ≠ "" ∧ ¬ WebUrl (tidyUrl url) ∧ .dispatchServer = cause := by
  cases server with
  | none => simp [serverOf]
  | some url =>
    by_cases empty : tidyUrl url = ""
    · simp [serverOf, Text.nonEmpty?, empty]
    · by_cases web : isWebUrl (tidyUrl url) = true
      · simp [serverOf, Text.nonEmpty?, empty, web, isWebUrl_iff.mp web]
      · have other : ¬ WebUrl (tidyUrl url) := mt isWebUrl_iff.mpr web
        simp [serverOf, Text.nonEmpty?, empty, web, other]

theorem flaw_of_dispatchOf (failed : dispatchOf s.dispatch = .error cause) : Flaw s cause := by
  simp only [dispatchOf, bind_eq_error, pure_eq_error, positive_eq_error (show 100 ≠ 0 by decide),
    serverOf_eq_error, Option.bind_eq_some_iff, and_false, exists_false, or_false] at failed
  rcases failed with ⟨⟨d, present, zero⟩, rfl⟩ | ⟨-, -, url, ⟨d, present, given⟩, nonempty, other, rfl⟩
  · exact .dispatchPoll present zero
  · exact .dispatchServer present given nonempty other

theorem flaw_of_registryOf (failed : registryOf s.actions = .error cause) : Flaw s cause := by
  simp only [registryOf, bind_eq_error, require_eq_error, pure_eq_error, and_false, exists_false,
    or_false, not_not] at failed
  rcases failed with failed | ⟨schemas, made, rfl, rfl⟩
  · rcases exists_flaw_of_allSchemas failed with ⟨g, member, blank, rfl⟩ | ⟨before, a, after, split, flaw⟩
    · exact .namespaceBlank member blank
    · exact .action split flaw
  · obtain ⟨-, -, described⟩ := allSchemas_eq_ok.mp made
    exact .noActions (List.forall₂_nil_right_iff.mp described)

/-- The error that is reported is a flaw of the sections. -/
theorem flaw_of_ofSections (failed : ofSections s = .error cause) : Flaw s cause := by
  have solid : Text.isAllBlank "info" = false := by decide +kernel
  simp only [ofSections, bind_eq_error, pure_eq_error, notBlank_eq_error solid, Option.map_eq_some_iff,
    and_false, exists_false, or_false] at failed
  rcases failed with agent | ⟨-, -, adapter | ⟨-, -, ⟨level, ⟨l, present, rfl⟩, blank, rfl⟩ |
    ⟨-, -, dispatch | ⟨-, -, actions⟩⟩⟩⟩
  · exact flaw_of_agentOf agent
  · exact flaw_of_adapterOf adapter
  · exact .logLevel present blank
  · exact flaw_of_dispatchOf dispatch
  · exact flaw_of_registryOf actions

end ActionBridge.Config
