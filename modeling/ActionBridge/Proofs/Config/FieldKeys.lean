import ActionBridge.Proofs.Config.Goals
import ActionBridge.Proofs.Goal.Building

/-!
# Field keys of a configuration

The keys of an action are accepted if they differ as they are written. They lose the space around them
only afterwards, and the goals of the action have what is left. On the wire a goal has a member for each
field exactly if the keys still differ then, and of two fields with one key only the last one is sent
(`fieldKeys_of_parse`, `wired_of_spaces`).
-/
namespace ActionBridge.Config

theorem empty_notMem_of_solid {keys : List String} (solid : ∀ key ∈ keys, Text.isAllBlank key = false) :
    "" ∉ keys.map Text.trim := by
  intro member
  obtain ⟨key, among, blank⟩ := List.mem_map.mp member
  have shown := solid key among
  rw [Text.isAllBlank, blank] at shown
  cases shown

/-- The keys of every action that is accepted are not empty and differ as they are written. A goal has
    all of its fields under these keys, without the space around them; on the wire it has a member for
    each key, with the value of the last field that has it. The members are the fields, one for each
    and in their order, exactly if the keys differ in more than the space around them. -/
theorem fieldKeys_of_parse (file text : String) (c : Config) (accepted : parse file text = .ok c) :
    ∃ s, sections text = .ok s ∧ c.actions.actions = (writtenActions s.actions).map (·.action) ∧
      ∀ a ∈ writtenActions s.actions, ∃ schema, c.actions.get? a.action = some schema ∧
        let written := a.entry.fields.map (·.key)
        let keys := schema.fields.map (·.key)
        keys = written.map Text.trim ∧ written.Nodup ∧ "" ∉ keys ∧
          ∀ seed g, c.actions.build a.action seed = .ok g → g.fields.map Prod.fst = keys ∧
            ∃ members, g.toJson = .object members ∧ members.map Prod.fst = keys.eraseDups ∧
              (∀ key, Assoc.get? key members = Assoc.get? key g.wired.reverse) ∧
              (members = g.wired ↔ keys.Nodup) := by
  obtain ⟨s, read, registers⟩ := registers_of_parse accepted
  refine ⟨s, read, registers.actions, fun a member => ?_⟩
  obtain ⟨schema, found, describes⟩ := registers.exists_get? member
  have keys : schema.fields.map (·.key) = (a.entry.fields.map (·.key)).map Text.trim := by
    rw [keys_of_fields describes.fields, List.map_map]
    rfl
  refine ⟨schema, found, keys, describes.keys.distinct, ?_, fun seed g built => ?_⟩
  · rw [keys]
    exact empty_notMem_of_solid describes.keys.solid
  · have made : schema.build seed = .ok g := by rwa [Registry.build, found] at built
    have bound := Goal.Schema.keys_of_build made
    refine ⟨bound, _, g.toJson_eq, ?_, fun key => Assoc.get?_ofPairs key g.wired, ?_⟩
    · rw [Assoc.keys_ofPairs, g.keys_wired, bound]
    · rw [Assoc.ofPairs_eq_self_iff, g.keys_wired, bound]

/-- The text of a configuration of one action with two fields. -/
def twoFieldsText (first second : String) : String :=
  "[agent]\nurl = \"http://a\"\n\n[actions.m.Load]\ngoal_element = \"Material\"\nfields = ["
    ++ "\x7b key = \"" ++ first ++ "\", kind = \"text\" \x7d, "
    ++ "\x7b key = \"" ++ second ++ "\", kind = \"text\", default = \"round\" \x7d]\n"

theorem exists_of_twoFields (first second : String) (fields : List (String × Goal.Value))
    (made : (parse "bridge.toml" (twoFieldsText first second)).toOption.map
      (fun c => (c.actions.actions, c.actions.build "Load" "STEEL")) = some (["Load"], .ok ⟨"Load", fields⟩)) :
    ∃ c, parse "bridge.toml" (twoFieldsText first second) = .ok c ∧ c.actions.actions = ["Load"] ∧
      c.actions.build "Load" "STEEL" = .ok ⟨"Load", fields⟩ := by
  cases accepted : parse "bridge.toml" (twoFieldsText first second) with
  | error fault =>
    rw [accepted] at made
    cases made
  | ok c =>
    rw [accepted] at made
    obtain ⟨actions, built⟩ := Prod.mk.inj (Option.some.inj made)
    exact ⟨c, rfl, actions, built⟩

/-- Two keys that differ in more than space give two members. -/
theorem fieldKeys_of_parse_shape :
    ∃ c g members, parse "bridge.toml" (twoFieldsText " material" "shape") = .ok c ∧
      c.actions.build "Load" "STEEL" = .ok g ∧ g.toJson = .object members ∧
      members.map Prod.fst = ["material", "shape"] := by
  obtain ⟨c, accepted, actions, built⟩ := exists_of_twoFields " material" "shape"
    [("material", .text "STEEL"), ("shape", .text "round")] (by decide +kernel)
  obtain ⟨s, -, named, keyed⟩ := fieldKeys_of_parse "bridge.toml" _ c accepted
  have listed : "Load" ∈ (writtenActions s.actions).map (·.action) := by
    rw [← named, actions]
    exact List.mem_cons_self
  obtain ⟨a, member, load⟩ := List.mem_map.mp listed
  obtain ⟨schema, -, -, -, -, goals⟩ := keyed a member
  obtain ⟨bound, members, wired, keys, -⟩ := goals "STEEL" _ (load ▸ built)
  refine ⟨c, _, members, accepted, built, wired, ?_⟩
  rw [keys, ← bound]
  show ["material", "shape"].eraseDups = ["material", "shape"]
  decide

/-- Two keys that differ in space are accepted. The text for the first field is not sent. -/
theorem wired_of_spaces :
    ∃ c g, parse "bridge.toml" (twoFieldsText "material" "material ") = .ok c ∧
      c.actions.build "Load" "STEEL" = .ok g ∧
      g.fields = [("material", .text "STEEL"), ("material", .text "round")] ∧
      g.toJson = .object [("material", .string "round")] := by
  obtain ⟨c, accepted, -, built⟩ := exists_of_twoFields "material" "material "
    [("material", .text "STEEL"), ("material", .text "round")] (by decide +kernel)
  exact ⟨c, _, accepted, built, rfl, rfl⟩

end ActionBridge.Config
