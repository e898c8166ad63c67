import ActionBridge.Proofs.Config.Actions
import ActionBridge.Proofs.DataItem
import ActionBridge.Proofs.Shdr.Framing

/-!
# Data items of a configuration

The actions of a configuration have different names as these are written, and none is blank. The
adapter knows them by their data items, so each has one of its own exactly if every name has a word
and no two have the same words (`dataItems_of_parse`). Names that differ only in capitals and
separators are accepted all the same, and share a data item (`shares_of_separators`).
-/
namespace ActionBridge

theorem Registry.dataItems_eq (r : Registry) : r.dataItems = r.actions.map DataItem.name := by
  rw [dataItems, actions_eq, List.map_map]
  rfl

namespace Config
open Shdr

/-- The adapter that a run of a configuration starts. -/
def startAdapter (c : Config) : Adapter := .start c.actions.dataItems c.adapter.heartbeat

/-! ## Names with words of their own -/

/-- Every name has a character that is no separator, and no two have the same words. -/
structure Apart (actions : List String) : Prop where
  worded : ∀ action ∈ actions, ∃ c ∈ action.toList, DataItem.isSeparator c = false
  distinct : (actions.map fun action => DataItem.words action.toList).Nodup

theorem apart_iff {actions : List String} :
    Apart actions ↔ "" ∉ actions.map DataItem.name ∧ (actions.map DataItem.name).Nodup := by
  have worded : (∀ action ∈ actions, ∃ c ∈ action.toList, DataItem.isSeparator c = false)
      ↔ "" ∉ actions.map DataItem.name := by
    simp [List.mem_map, DataItem.name_eq_empty_iff]
  have distinct : (actions.map fun action => DataItem.words action.toList).Nodup
      ↔ (actions.map DataItem.name).Nodup := by
    simp only [List.Nodup, List.pairwise_map, ne_eq, DataItem.name_eq_iff]
  exact ⟨fun apart => ⟨worded.mp apart.worded, distinct.mp apart.distinct⟩,
    fun ⟨named, nodup⟩ => ⟨worded.mpr named, distinct.mpr nodup⟩⟩

theorem eraseDups_eq_self {α : Type} [BEq α] [LawfulBEq α] {xs : List α} (nodup : xs.Nodup) :
    xs.eraseDups = xs := by
  induction xs with
  | nil => rfl
  | cons x xs ih =>
    obtain ⟨fresh, rest⟩ := List.nodup_cons.mp nodup
    have others : xs.filter (fun y => !y == x) = xs :=
      List.filter_eq_self.mpr fun y member => by
        have other : y ≠ x := fun same => fresh (same ▸ member)
        simpa using other
    rw [List.eraseDups_cons, others, ih rest]

/-! ## The adapter of a configuration -/

theorem names_startAdapter (c : Config) : c.startAdapter.names = c.actions.dataItems.eraseDups :=
  (Adapter.sound_start _ _).names

/-- The adapter has a data item with a name for each action exactly if the names are apart. -/
theorem names_startAdapter_eq_iff (c : Config) :
    c.startAdapter.names = c.actions.dataItems ∧ "" ∉ c.actions.dataItems
      ↔ Apart c.actions.actions := by
  have nodup : c.startAdapter.names.Nodup := (Adapter.sound_start _ _).nodup
  rw [apart_iff, ← c.actions.dataItems_eq]
  constructor
  · rintro ⟨same, named⟩
    exact ⟨named, same ▸ nodup⟩
  · rintro ⟨named, distinct⟩
    exact ⟨(names_startAdapter c).trans (eraseDups_eq_self distinct), named⟩

/-- The names of the actions that are accepted are those that are written; they differ and are not
    blank. Each action has a data item of its own exactly if they differ in their words as well, and
    an update of one action leaves alone those of the actions with other words. -/
theorem dataItems_of_parse (file text : String) (c : Config) (accepted : parse file text = .ok c) :
    (∃ s, sections text = .ok s ∧
      c.actions.actions = (writtenActions s.actions).map (·.action)) ∧
    c.actions.actions.Nodup ∧ (∀ action ∈ c.actions.actions, Text.isAllBlank action = false) ∧
    (c.startAdapter.names = c.actions.dataItems ∧ "" ∉ c.actions.dataItems
      ↔ Apart c.actions.actions) ∧
    ∀ es, (c.startAdapter.after es).gathering = false → ∀ action other value,
      DataItem.words action.toList ≠ DataItem.words other.toList →
      let update := (transaction (DataItem.name action) value).map Adapter.Event.told
      (c.startAdapter.after (es ++ update)).value? (DataItem.name other)
          = (c.startAdapter.after es).value? (DataItem.name other) ∧
        ∀ d ∈ (c.startAdapter.after es).sent update,
          ∃ r, d.message = .record r ∧ DataItem.name other ∉ r.map Prod.fst := by
  obtain ⟨s, read, registers⟩ := registers_of_parse accepted
  refine ⟨⟨s, read, registers.actions⟩, c.actions.nodup, ?_, names_startAdapter_eq_iff c, ?_⟩
  · rw [registers.actions]
    exact registers.fresh.solid
  · intro es idle action other value differs
    have sound := (Adapter.sound_start c.actions.dataItems c.adapter.heartbeat).after es
    have apart : DataItem.name action ≠ DataItem.name other := differs ∘ (DataItem.name_eq_iff _ _).mp
    dsimp only
    rw [Adapter.after_append]
    exact Adapter.transaction_alone sound idle apart

/-- The text of a configuration of actions with the given names. -/
def actionsText (names : List String) : String :=
  "[agent]\nurl = \"http://a\"\n" ++ String.join (names.map fun name =>
    "\n[actions.m.\"" ++ name ++ "\"]\ngoal_element = \"Material\"\n"
      ++ "fields = [\x7b key = \"kind\", kind = \"text\" \x7d]\n")

theorem exists_of_actions (text : String) (names : List String)
    (made : (parse "bridge.toml" text).toOption.map (·.actions.actions) = some names) :
    ∃ c, parse "bridge.toml" text = .ok c ∧ c.actions.actions = names := by
  cases accepted : parse "bridge.toml" text with
  | error fault =>
    rw [accepted] at made
    cases made
  | ok c =>
    rw [accepted] at made
    exact ⟨c, rfl, Option.some.inj made⟩

/-- Two actions with words of their own have two data items. -/
theorem dataItems_of_parse_apart :
    ∃ c, parse "bridge.toml" (actionsText ["MaterialLoad", "open_door"]) = .ok c ∧
      c.startAdapter.names = ["material_load", "open_door"] ∧
      (c.startAdapter.after ([] ++ (transaction (DataItem.name "MaterialLoad") "ACTIVE").map
        Adapter.Event.told)).value? (DataItem.name "open_door") = none := by
  obtain ⟨c, accepted, named⟩ := exists_of_actions
    (actionsText ["MaterialLoad", "open_door"]) ["MaterialLoad", "open_door"] (by decide +kernel)
  obtain ⟨-, -, -, own, alone⟩ := dataItems_of_parse "bridge.toml" _ c accepted
  have apart : Apart c.actions.actions := by
    rw [named]
    refine ⟨fun action member => ?_, by decide +kernel⟩
    simp only [List.mem_cons, List.not_mem_nil, or_false] at member
    rcases member with rfl | rfl
    · exact ⟨'M', by decide, by decide⟩
    · exact ⟨'o', by decide, by decide⟩
  refine ⟨c, accepted, ?_, ?_⟩
  · rw [(own.mpr apart).1, Registry.dataItems_eq, named]
    decide +kernel
  · have kept := alone [] rfl "MaterialLoad" "open_door" "ACTIVE" (by decide +kernel)
    rw [kept.1]
    exact Adapter.value?_start _ _ _

/-- Two actions are accepted whose names differ in capitals and separators. They share a data item,
    so the adapter has one for both, and an update of one of them is one of the other. -/
theorem shares_of_separators :
    ∃ c, parse "bridge.toml" (actionsText ["MaterialLoad", "material_load"]) = .ok c ∧
      c.actions.actions = ["MaterialLoad", "material_load"] ∧
      c.actions.dataItems = ["material_load", "material_load"] ∧
      c.startAdapter.names = ["material_load"] ∧
      ∀ value, (c.startAdapter.after ((transaction (DataItem.name "material_load") value).map
        Adapter.Event.told)).value? (DataItem.name "MaterialLoad") = some value := by
  obtain ⟨c, accepted, named⟩ := exists_of_actions
    (actionsText ["MaterialLoad", "material_load"]) ["MaterialLoad", "material_load"]
    (by decide +kernel)
  have items : c.actions.dataItems = ["material_load", "material_load"] := by
    rw [Registry.dataItems_eq, named]
    decide +kernel
  have same : DataItem.name "material_load" = DataItem.name "MaterialLoad" := by decide +kernel
  refine ⟨c, accepted, named, items, ?_, fun value => ?_⟩
  · rw [names_startAdapter, items]
    decide
  · have sound := Adapter.sound_start c.actions.dataItems c.adapter.heartbeat
    have known : DataItem.name "MaterialLoad" ∈ c.actions.dataItems.eraseDups := by
      rw [items]
      decide +kernel
    rw [startAdapter, Adapter.value?_after sound known, same, Adapter.lastSet?_transaction, if_pos rfl]
    rfl

end Config
end ActionBridge
