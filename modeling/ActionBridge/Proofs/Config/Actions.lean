import ActionBridge.Config.Settings
import ActionBridge.Proofs.Assoc
import ActionBridge.Proofs.Config.Fields

/-!
# Accepted actions

A configuration whose actions are accepted has a registry with exactly these actions, in the order
in which they are written, and under each of them the schema that its section describes
(`registryOf_eq_ok`, `registers_of_parse`).
-/
namespace ActionBridge

/-! ## Registries -/

namespace Registry

theorem entries_ofSchemas {schemas : List Goal.Schema} (distinct : (schemas.map (·.action)).Nodup) :
    (ofSchemas schemas).entries = schemas.map fun s => (s.action, s) := by
  induction schemas using List.reverseRecOn with
  | nil => rfl
  | append_singleton schemas s ih =>
    rw [List.map_append, List.nodup_append] at distinct
    obtain ⟨here, -, apart⟩ := distinct
    have split : ofSchemas (schemas ++ [s]) = (ofSchemas schemas).add s := List.foldl_concat ..
    have absent : s.action ∉ ((ofSchemas schemas).entries).map Prod.fst := by
      rw [ih here, List.map_map]
      exact fun member => apart s.action member s.action List.mem_cons_self rfl
    have put : ((ofSchemas schemas).add s).entries
        = (ofSchemas schemas).entries ++ [(s.action, s)] := Assoc.put_of_notMem absent s
    rw [split, put, ih here, List.map_append, List.map_singleton]

theorem schemas_ofSchemas {schemas : List Goal.Schema} (distinct : (schemas.map (·.action)).Nodup) :
    (ofSchemas schemas).schemas = schemas := by
  rw [Registry.schemas, entries_ofSchemas distinct, List.map_map]
  exact List.map_id _

theorem actions_eq (r : Registry) : r.actions = r.schemas.map (·.action) := by
  rw [actions, schemas, List.map_map]
  exact List.map_congr_left fun e member => (r.keyed e member).symm

theorem get?_of_mem {r : Registry} {s : Goal.Schema} (member : s ∈ r.schemas) :
    r.get? s.action = some s := by
  obtain ⟨⟨action, s⟩, among, rfl⟩ := List.mem_map.mp member
  have key : s.action = action := r.keyed _ among
  exact (Assoc.get?_eq_some_iff r.nodup).mpr (key ▸ among)

end Registry

namespace Config

/-! ## Single actions -/

/-- An action as it is written in a group. -/
structure WrittenAction where
  space : String
  action : String
  entry : Section.Action

/-- `schema` is what the action `a` says. -/
structure Describes (a : WrittenAction) (schema : Goal.Schema) : Prop where
  space : schema.space = a.space
  action : schema.action = a.action
  solid : Text.isAllBlank a.entry.goalElement = false
  goalElement : schema.goalElement = Text.trim a.entry.goalElement
  keys : Fresh [] (a.entry.fields.map (·.key))
  fields : Fields a.entry.fields schema.fields
  resultField : schema.resultField
    = a.entry.resultField.bind fun field => Text.nonEmpty? (Text.trim field)

theorem schemaOf_eq_ok {space action : String} {s : Section.Action} {schema : Goal.Schema} :
    schemaOf space action s = .ok schema ↔ Describes ⟨space, action, s⟩ schema := by
  simp only [schemaOf, bind_eq_ok, require_eq_ok, pure_eq_ok, exists_const, Bool.not_eq_true,
    fieldsOf_eq_ok]
  constructor
  · rintro ⟨solid, fields, ⟨keys, made⟩, rfl⟩
    exact ⟨rfl, rfl, solid, rfl, keys, made, rfl⟩
  · intro describes
    obtain ⟨written, named, element, fields, result⟩ := schema
    obtain ⟨here, same, solid, goal, keys, made, reported⟩ := describes
    dsimp only at here same goal reported
    subst here same goal reported
    exact ⟨solid, fields, ⟨keys, made⟩, rfl⟩

/-! ## All actions -/

/-- The actions of a group, in order. -/
def writtenIn (space : String) (group : List (String × Section.Action)) : List WrittenAction :=
  group.map fun e => ⟨space, e.1, e.2⟩

/-- The actions of all groups, in order. -/
def writtenActions (groups : List (String × List (String × Section.Action))) : List WrittenAction :=
  groups.flatMap fun g => writtenIn g.1 g.2

variable {seen : List String} {space : String} {group : List (String × Section.Action)}
  {groups : List (String × List (String × Section.Action))} {schemas : List Goal.Schema}

theorem action_writtenIn : (writtenIn space group).map (·.action) = group.map Prod.fst :=
  List.map_map

theorem groupSchemas_eq_ok : groupSchemas space seen group = .ok schemas ↔
    Fresh seen (group.map Prod.fst) ∧ List.Forall₂ Describes (writtenIn space group) schemas := by
  induction group generalizing seen schemas with
  | nil =>
    rw [groupSchemas, Except.ok.injEq, writtenIn, List.map_nil, List.map_nil,
      List.forall₂_nil_left_iff]
    exact ⟨fun same => ⟨fresh_nil seen, same.symm⟩, fun same => same.2.symm⟩
  | cons e group ih =>
    have split : writtenIn space (e :: group) = ⟨space, e.1, e.2⟩ :: writtenIn space group := rfl
    simp only [groupSchemas, bind_eq_ok, require_eq_ok, pure_eq_ok, exists_const, mapError_eq_ok,
      schemaOf_eq_ok, ih, List.map_cons, fresh_cons, Bool.not_eq_true, split,
      List.forall₂_cons_left_iff]
    constructor
    · rintro ⟨solid, unseen, schema, describes, schemas, ⟨fresh, later⟩, rfl⟩
      exact ⟨⟨solid, unseen, fresh⟩, schema, schemas, describes, later, rfl⟩
    · rintro ⟨⟨solid, unseen, fresh⟩, schema, schemas, describes, later, rfl⟩
      exact ⟨solid, unseen, schema, describes, schemas, ⟨fresh, later⟩, rfl⟩

theorem forall₂_append_left_iff {α β : Type} {R : α → β → Prop} {xs ys : List α} {zs : List β} :
    List.Forall₂ R (xs ++ ys) zs ↔
      ∃ first later, List.Forall₂ R xs first ∧ List.Forall₂ R ys later ∧ zs = first ++ later := by
  induction xs generalizing zs with
  | nil => simp
  | cons x xs ih =>
    simp only [List.cons_append, List.forall₂_cons_left_iff, ih]
    constructor
    · rintro ⟨z, _, here, ⟨first, later, before, behind, rfl⟩, rfl⟩
      exact ⟨z :: first, later, ⟨z, first, here, before, rfl⟩, behind, rfl⟩
    · rintro ⟨_, later, ⟨z, first, here, before, rfl⟩, behind, rfl⟩
      exact ⟨z, first ++ later, here, ⟨first, later, before, behind, rfl⟩, rfl⟩

theorem allSchemas_eq_ok : allSchemas seen groups = .ok schemas ↔
    (∀ g ∈ groups, Text.isAllBlank g.1 = false) ∧
      Fresh seen ((writtenActions groups).map (·.action)) ∧
      List.Forall₂ Describes (writtenActions groups) schemas := by
  induction groups generalizing seen schemas with
  | nil =>
    rw [allSchemas, Except.ok.injEq, writtenActions, List.flatMap_nil, List.map_nil,
      List.forall₂_nil_left_iff]
    exact ⟨fun same => ⟨nofun, fresh_nil seen, same.symm⟩, fun same => same.2.2.symm⟩
  | cons g groups ih =>
    have split : writtenActions (g :: groups) = writtenIn g.1 g.2 ++ writtenActions groups :=
      List.flatMap_cons
    simp only [allSchemas, bind_eq_ok, require_eq_ok, pure_eq_ok, exists_const, groupSchemas_eq_ok,
      ih, Bool.not_eq_true, split, List.map_append, action_writtenIn, fresh_append,
      forall₂_append_left_iff, List.forall_mem_cons]
    constructor
    · rintro ⟨solid, first, ⟨fresh, here⟩, later, ⟨solids, freshs, there⟩, rfl⟩
      exact ⟨⟨solid, solids⟩, ⟨fresh, freshs⟩, first, later, here, there, rfl⟩
    · rintro ⟨⟨solid, solids⟩, ⟨fresh, freshs⟩, first, later, here, there, rfl⟩
      exact ⟨solid, first, ⟨fresh, here⟩, later, ⟨solids, freshs, there⟩, rfl⟩

/-- The registry has the actions of the groups, of which there is at least one, as they are
    written. -/
structure Registers (groups : List (String × List (String × Section.Action))) (r : Registry) :
    Prop where
  spaces : ∀ g ∈ groups, Text.isAllBlank g.1 = false
  fresh : Fresh [] ((writtenActions groups).map (·.action))
  nonempty : writtenActions groups ≠ []
  described : List.Forall₂ Describes (writtenActions groups) r.schemas

theorem map_action_of_described {as : List WrittenAction}
    (described : List.Forall₂ Describes as schemas) :
    schemas.map (·.action) = as.map (·.action) := by
  induction described with
  | nil => rfl
  | cons describes _ ih => rw [List.map_cons, List.map_cons, ih, describes.action]

theorem exists_mem_of_forall₂ {α β : Type} {R : α → β → Prop} {xs : List α} {ys : List β}
    (paired : List.Forall₂ R xs ys) {x : α} (member : x ∈ xs) : ∃ y ∈ ys, R x y := by
  induction paired with
  | nil => exact absurd member List.not_mem_nil
  | cons here _ ih =>
    rcases List.mem_cons.mp member with rfl | later
    · exact ⟨_, List.mem_cons_self, here⟩
    · obtain ⟨y, among, there⟩ := ih later
      exact ⟨y, List.mem_cons_of_mem _ among, there⟩

variable {r : Registry}

theorem Registers.actions (registers : Registers groups r) :
    r.actions = (writtenActions groups).map (·.action) :=
  r.actions_eq.trans (map_action_of_described registers.described)

theorem Registers.exists_get? (registers : Registers groups r) {a : WrittenAction}
    (member : a ∈ writtenActions groups) :
    ∃ schema, r.get? a.action = some schema ∧ Describes a schema := by
  obtain ⟨schema, among, describes⟩ := exists_mem_of_forall₂ registers.described member
  exact ⟨schema, describes.action ▸ Registry.get?_of_mem among, describes⟩

/-- Every schema of the registry is that of an action that is written. -/
theorem Registers.exists_written (registers : Registers groups r) {action : String}
    {schema : Goal.Schema} (known : r.get? action = some schema) :
    ∃ a ∈ writtenActions groups, Describes a schema := by
  have member : schema ∈ r.schemas := List.mem_map_of_mem (Assoc.mem_of_get?_eq_some known)
  exact exists_mem_of_forall₂ registers.described.flip member

/-- Groups are accepted exactly if there is a registry of their actions, which then is the one. -/
theorem registryOf_eq_ok :
    registryOf groups = .ok r ↔ Registers groups r ∧ r = .ofSchemas r.schemas := by
  simp only [registryOf, bind_eq_ok, require_eq_ok, pure_eq_ok, exists_const, allSchemas_eq_ok]
  constructor
  · rintro ⟨schemas, ⟨spaces, fresh, described⟩, nonempty, rfl⟩
    have distinct : (schemas.map (·.action)).Nodup := by
      rw [map_action_of_described described]
      exact fresh.distinct
    rw [Registry.schemas_ofSchemas distinct]
    refine ⟨⟨spaces, fresh, fun none => nonempty ?_, ?_⟩, rfl⟩
    · rw [none] at described
      exact List.forall₂_nil_left_iff.mp described
    · rwa [Registry.schemas_ofSchemas distinct]
  · rintro ⟨⟨spaces, fresh, nonempty, described⟩, same⟩
    refine ⟨r.schemas, ⟨spaces, fresh, described⟩, fun none => nonempty ?_, same.symm⟩
    rw [none] at described
    exact List.forall₂_nil_right_iff.mp described

theorem registers_of_ofSections {s : Sections} {c : Config} (made : ofSections s = .ok c) :
    Registers s.actions c.actions := by
  simp only [ofSections, bind_eq_ok, pure_eq_ok] at made
  obtain ⟨agent, -, adapter, -, logLevel, -, dispatch, -, actions, registered, rfl⟩ := made
  exact (registryOf_eq_ok.mp registered).1

/-- The registry of a configuration has the actions of its text. -/
theorem registers_of_parse {file text : String} {c : Config} (accepted : parse file text = .ok c) :
    ∃ s, sections text = .ok s ∧ Registers s.actions c.actions := by
  rw [parse, mapError_eq_ok] at accepted
  obtain ⟨s, read, made⟩ := bind_eq_ok.mp accepted
  exact ⟨s, read, registers_of_ofSections made⟩

end Config
end ActionBridge
