import ActionBridge.Proofs.Config.Actions
import ActionBridge.Proofs.Decimal.Integers

/-!
# Goals of a configuration

What is accepted at the start does not fail at a request: the registry of a configuration makes a
goal of every text that the kind of the first field reads, with the values that are written as
defaults in all later fields, and refuses any other text on account of the first field
(`builds_of_parse`).
-/
namespace ActionBridge.Config

/-! ## Defaults -/

/-- The value that a default stands for in a field of the given kind. Where the type of the default
    is that of the kind it is the value itself, elsewhere what the kind reads in its text. -/
def defaultValue? : Goal.Kind → Toml.Value → Option Goal.Value
  | .integer, .integer n => some (.integer n)
  | .bool, .boolean flag => some (.bool flag)
  | .text, .string s => some (.text (Text.trim s))
  | kind, v => (scalarText? v).bind kind.read?

/-- The text of a default is read as the value that it stands for. -/
theorem defaultValue?_of_read {kind : Goal.Kind} {v : Toml.Value} {text : String}
    {value : Goal.Value} (written : scalarText? v = some text)
    (read : kind.read? text = some value) : defaultValue? kind v = some value := by
  fun_cases defaultValue? kind v with
  | case1 n =>
    obtain rfl : toString n = text := Option.some.inj written
    rw [Goal.Kind.read?, Decimal.trim_toString, Decimal.int64?_toString] at read
    split at read
    · exact read
    · cases read
  | case2 flag =>
    obtain rfl := Option.some.inj written
    cases flag with
    | true => exact (by decide : Goal.Kind.bool.read? "true" = some (.bool true)).symm.trans read
    | false => exact (by decide : Goal.Kind.bool.read? "false" = some (.bool false)).symm.trans read
  | case3 s =>
    obtain rfl := Option.some.inj written
    exact read
  | case4 => rw [written, Option.bind_some, read]

/-- The field `f` of a section has its key and the value of its default in a goal. -/
structure Holds (f : Section.Field) (entry : String × Goal.Value) : Prop where
  key : entry.1 = Text.trim f.key
  value : ∃ kind v, Goal.Kind.ofName? f.kind = some kind ∧ f.default = some v ∧
    defaultValue? kind v = some entry.2

/-! ## Goals -/

/-- Every later field has a text, and its kind reads it. -/
theorem exists_values_of_filled {fs : List Section.Field} {specs : List Goal.Field}
    (filled : List.Forall₂ Filled fs specs) (s : Goal.Schema) :
    (specs.filterMap (·.default)).length = specs.length ∧
      ∃ values, List.Forall₂ Holds fs values ∧
        (specs.zip (specs.filterMap (·.default))).mapM (fun (field, text) => s.bind field text)
          = .ok values := by
  induction filled with
  | nil => exact ⟨rfl, [], .nil, rfl⟩
  | @cons f spec fs specs here _ ih =>
    obtain ⟨size, values, hold, made⟩ := ih
    obtain ⟨v, text, bare, written, reads, default⟩ := here.default
    obtain ⟨value, read⟩ := Option.isSome_iff_exists.mp reads
    have texts : (spec :: specs).filterMap (·.default) = text :: specs.filterMap (·.default) :=
      List.filterMap_cons_some default
    have bound : s.bind spec text = .ok (spec.key, value) := by rw [Goal.Schema.bind, read]
    refine ⟨?_, (spec.key, value) :: values, ?_, ?_⟩
    · rw [texts, List.length_cons, size, List.length_cons]
    · exact .cons ⟨here.key, spec.kind, v, here.kind, bare, defaultValue?_of_read written read⟩ hold
    · rw [texts, List.zip_cons_cons, List.mapM_cons, made]
      simp only [bound]
      rfl

/-- A goal of a schema whose later fields are filled is made or refused by its first field alone. -/
theorem exists_build_of_filled {fs : List Section.Field} {spec : Goal.Field} {specs : List Goal.Field}
    {schema : Goal.Schema} (made : schema.fields = spec :: specs)
    (filled : List.Forall₂ Filled fs specs) : ∃ values, List.Forall₂ Holds fs values ∧
      ∀ seed, schema.build seed = match spec.kind.read? seed with
        | some value => .ok ⟨schema.action, (spec.key, value) :: values⟩
        | none => .error (.invalidField schema.action spec.key seed) := by
  obtain ⟨size, values, hold, bound⟩ := exists_values_of_filled filled schema
  refine ⟨values, hold, fun seed => ?_⟩
  have texts : schema.texts seed = seed :: specs.filterMap (·.default) := by
    rw [Goal.Schema.texts, made]
    rfl
  have fits : (schema.texts seed).length = schema.fields.length := by
    rw [texts, made, List.length_cons, List.length_cons, size]
  rw [Goal.Schema.build, if_neg (not_not_intro fits), made, texts, List.zip_cons_cons,
    List.mapM_cons, bound]
  cases read : spec.kind.read? seed with
  | none =>
    simp only [Goal.Schema.bind, read]
    rfl
  | some value =>
    simp only [Goal.Schema.bind, read]
    rfl

/-- What the goals of an action are whose fields are those of `schema`: the first field has what its
    kind reads in the text, and the later ones what they have as defaults. -/
theorem build_of_fields {fs : List Section.Field} {schema : Goal.Schema}
    (fields : Fields fs schema.fields) : ∃ first later kind values,
      fs = first :: later ∧ Goal.Kind.ofName? first.kind = some kind ∧
      List.Forall₂ Holds later values ∧
      ∀ seed, schema.build seed = match kind.read? seed with
        | some value => .ok ⟨schema.action, (Text.trim first.key, value) :: values⟩
        | none => .error (.invalidField schema.action (Text.trim first.key) seed) := by
  cases made : schema.fields with
  | nil => exact nomatch made ▸ fields
  | cons spec specs =>
    rw [made] at fields
    cases fields with
    | @cons first later _ _ seeded filled =>
      obtain ⟨values, hold, builds⟩ := exists_build_of_filled made filled
      rw [seeded.key] at builds
      exact ⟨first, later, spec.kind, values, rfl, seeded.kind, hold, builds⟩

theorem keys_of_fields {fs : List Section.Field} {specs : List Goal.Field}
    (fields : Fields fs specs) : specs.map (·.key) = fs.map fun f => Text.trim f.key := by
  obtain ⟨seeded, filled⟩ := fields
  rw [List.map_cons, List.map_cons, seeded.key]
  congr 1
  induction filled with
  | nil => rfl
  | cons here _ ih => rw [List.map_cons, List.map_cons, here.key, ih]

/-- The registry serves the action `a`, whose fields are `first` of the given kind and `later` with
    the given values. A request fails only if the text for the first field is none of that kind. -/
structure Serves (r : Registry) (a : WrittenAction) (schema : Goal.Schema) (first : Section.Field)
    (later : List Section.Field) (kind : Goal.Kind) (values : List (String × Goal.Value)) :
    Prop where
  found : r.get? a.action = some schema
  keys : schema.fields.map (·.key) = a.entry.fields.map fun f => Text.trim f.key
  fields : a.entry.fields = first :: later
  named : Goal.Kind.ofName? first.kind = some kind
  hold : List.Forall₂ Holds later values
  builds : ∀ seed, r.build a.action seed = match kind.read? seed with
    | some value => .ok ⟨a.action, (Text.trim first.key, value) :: values⟩
    | none => .error (.invalidField a.action (Text.trim first.key) seed)

theorem Registers.serves {groups : List (String × List (String × Section.Action))} {r : Registry}
    (registers : Registers groups r) {a : WrittenAction} (member : a ∈ writtenActions groups) :
    ∃ schema first later kind values, Serves r a schema first later kind values := by
  obtain ⟨schema, found, describes⟩ := registers.exists_get? member
  obtain ⟨first, later, kind, values, fields, named, hold, builds⟩ :=
    build_of_fields describes.fields
  refine ⟨schema, first, later, kind, values, found, keys_of_fields describes.fields, fields, named,
    hold, fun seed => ?_⟩
  have same : r.build a.action seed = schema.build seed := by rw [Registry.build, found]
  rw [same, builds, describes.action]

/-- The registry of every configuration that is accepted has the actions that are written, in their
    order, and serves each of them. -/
theorem builds_of_parse (file text : String) (c : Config) (accepted : parse file text = .ok c) :
    ∃ s, sections text = .ok s ∧
      c.actions.actions = (writtenActions s.actions).map (·.action) ∧
      ∀ a ∈ writtenActions s.actions, ∃ schema first later kind values,
        Serves c.actions a schema first later kind values := by
  obtain ⟨s, read, registers⟩ := registers_of_parse accepted
  exact ⟨s, read, registers.actions, fun a member => registers.serves member⟩

/-- A configuration with a default of the type of its field, and one of another type. -/
def drillText : String :=
  "[agent]\nurl = \"http://a\"\n\n[actions.m.Drill]\ngoal_element = \"Depth\"\nfields = ["
    ++ "\x7b key = \" depth \", kind = \"integer\" \x7d, "
    ++ "\x7b key = \"count\", kind = \"integer\", default = 3 \x7d, "
    ++ "\x7b key = \"dry\", kind = \"bool\", default = 1 \x7d]\n"

/-- Of the one action of a text the requests are served that have an integer. -/
theorem builds_of_parse_drill : ∃ c, parse "bridge.toml" drillText = .ok c ∧
    (∃ s, sections drillText = .ok s ∧
      c.actions.actions = (writtenActions s.actions).map (·.action) ∧
      ∀ a ∈ writtenActions s.actions, ∃ schema first later kind values,
        Serves c.actions a schema first later kind values) ∧
    c.actions.build "Drill" " 7 "
      = .ok ⟨"Drill", [("depth", .integer 7), ("count", .integer 3), ("dry", .bool true)]⟩ ∧
    c.actions.build "Drill" "deep" = .error (.invalidField "Drill" "depth" "deep") := by
  have builds : (parse "bridge.toml" drillText).toOption.map
      (fun c => (c.actions.build "Drill" " 7 ", c.actions.build "Drill" "deep"))
        = some (.ok ⟨"Drill", [("depth", .integer 7), ("count", .integer 3), ("dry", .bool true)]⟩,
          .error (.invalidField "Drill" "depth" "deep")) := by decide +kernel
  cases accepted : parse "bridge.toml" drillText with
  | error fault =>
    rw [accepted] at builds
    cases builds
  | ok c =>
    rw [accepted] at builds
    have both := Prod.mk.inj (Option.some.inj builds)
    exact ⟨c, rfl, builds_of_parse "bridge.toml" drillText c accepted, both.1, both.2⟩

end ActionBridge.Config
