import ActionBridge.Goal.Schema
import ActionBridge.Proofs.Assoc
import ActionBridge.Proofs.Config.Fields

/-!
# Goals of a schema

A schema makes a goal of a text exactly if there is a text for every field and its kind reads it. Then
the goal has under the key of each field what the kind has read (`build_eq_ok`).
-/
namespace ActionBridge

/-! ## Fields -/

/-- The field has its key in a goal, and the value that its kind reads in the text. -/
structure Goal.Field.Binds (field : Goal.Field) (text : String) (entry : String × Goal.Value) : Prop where
  key : entry.1 = field.key
  value : field.kind.read? text = some entry.2

namespace Goal.Schema

variable {s : Goal.Schema} {g : Goal} {seed : String}

theorem bind_eq_ok {field : Goal.Field} {text : String} {entry : String × Goal.Value} :
    s.bind field text = .ok entry ↔ field.Binds text entry := by
  obtain ⟨key, value⟩ := entry
  rw [Goal.Schema.bind]
  cases read : field.kind.read? text with
  | none =>
    refine ⟨nofun, fun binds => ?_⟩
    cases read.symm.trans binds.value
  | some found =>
    constructor
    · intro same
      obtain ⟨rfl, rfl⟩ := Prod.mk.inj (Except.ok.inj same)
      exact ⟨rfl, read⟩
    · rintro ⟨rfl, value⟩
      obtain rfl := Option.some.inj (read.symm.trans value)
      rfl

/-- When a goal is made, and which. -/
theorem build_eq_ok : s.build seed = .ok g ↔
    (s.texts seed).length = s.fields.length ∧ g.action = s.action ∧
      List.Forall₂ (fun p e => p.1.Binds p.2 e) (s.fields.zip (s.texts seed)) g.fields := by
  obtain ⟨action, fields⟩ := g
  rw [build]
  by_cases fits : (s.texts seed).length = s.fields.length
  · simp only [ne_eq, fits, not_true, if_false, Config.bind_eq_ok, Config.pure_eq_ok, Config.mapM_eq_ok,
      bind_eq_ok, Goal.mk.injEq, true_and]
    exact ⟨fun ⟨_, bound, named, same⟩ => ⟨named.symm, same ▸ bound⟩,
      fun ⟨named, bound⟩ => ⟨fields, bound, named.symm, rfl⟩⟩
  · rw [if_pos fits]
    exact ⟨nofun, fun made => absurd made.1 fits⟩

theorem keys_of_binds {pairs : List (Goal.Field × String)} {entries : List (String × Goal.Value)}
    (bound : List.Forall₂ (fun p e => p.1.Binds p.2 e) pairs entries) :
    entries.map Prod.fst = (pairs.map (·.1)).map (·.key) := by
  induction bound with
  | nil => rfl
  | cons binds _ ih => rw [List.map_cons, ih, binds.key, List.map_cons, List.map_cons]

/-- A goal has the keys of its schema, in order. -/
theorem keys_of_build (made : s.build seed = .ok g) : g.fields.map Prod.fst = s.fields.map (·.key) := by
  obtain ⟨fits, -, bound⟩ := build_eq_ok.mp made
  rw [keys_of_binds bound, List.map_fst_zip (Nat.le_of_eq fits.symm)]

end Goal.Schema

/-! ## Members -/

/-- The values of a goal as they go over the wire. -/
def Goal.wired (g : Goal) : List (String × Json) := g.fields.map fun e => (e.1, e.2.toJson)

theorem Goal.keys_wired (g : Goal) : g.wired.map Prod.fst = g.fields.map Prod.fst := by
  rw [wired, List.map_map]
  rfl

theorem Goal.toJson_eq (g : Goal) : g.toJson = .object (Assoc.ofPairs g.wired) := rfl

end ActionBridge
