import ActionBridge.Proofs.Goal.Building

/-!
# Goals by position

The text of a field is the seed or its own default by its position alone (`textAt?`), though the
defaults of a schema are gathered without their fields. So a goal is refused for their number if a field
has no text, else for the first field whose kind does not read its text, and what is made binds the value
of each text to the key of its own field (`build_positional`).
-/
namespace ActionBridge

/-! ## Outcomes -/

namespace Goal.Schema

variable {s : Goal.Schema} {g : Goal} {seed action key text : String} {i : Nat} {field : Goal.Field}

/-- There is no field for the seed, or a later field without a text. -/
def Unfillable (s : Goal.Schema) : Prop :=
  s.fields = [] ∨ ∃ field ∈ s.fields.tail, field.default = none

instance (s : Goal.Schema) : Decidable s.Unfillable :=
  inferInstanceAs (Decidable (s.fields = [] ∨ ∃ field ∈ s.fields.tail, field.default = none))

/-- The text for the field at a position: the seed for the first one, also if it has a default, and for
    a later one its default. -/
def textAt? (s : Goal.Schema) (seed : String) : Nat → Option String
  | 0 => some seed
  | i + 1 => s.fields[i + 1]?.bind (·.default)

/-- The field stands at the position `i`, and `text` is the text for it. -/
structure GivenAt (s : Goal.Schema) (seed : String) (i : Nat) (field : Goal.Field) (text : String) :
    Prop where
  field : s.fields[i]? = some field
  text : s.textAt? seed i = some text

/-- The kind of the field at the position `i` reads the text for it. -/
def ReadsAt (s : Goal.Schema) (seed : String) (i : Nat) : Prop :=
  ∃ field text, s.GivenAt seed i field text ∧ (field.kind.read? text).isSome = true

/-- What is made of the seed: a goal, or the error that tells what keeps it from being made. -/
structure Positional (s : Goal.Schema) (seed : String) (built : Except DispatchFault Goal) : Prop where
  /-- the number of texts is wrong exactly if there is no field, or a later one has no text -/
  mismatch : ∀ action expected found, built = .error (.schemaMismatch action expected found) ↔
    s.Unfillable ∧ action = s.action ∧ expected = s.fields.length
      ∧ found = 1 + s.fields.tail.countP (·.default.isSome)
  /-- else there is a goal exactly if every kind reads the text for its field -/
  made : (∃ g, built = .ok g) ↔ ¬ s.Unfillable ∧ ∀ i < s.fields.length, s.ReadsAt seed i
  /-- it has, position by position, the key of the field and what its kind has read -/
  bound : ∀ g, built = .ok g → g.action = s.action ∧ g.fields.length = s.fields.length
    ∧ ∀ i entry, g.fields[i]? = some entry →
      ∃ field text, s.GivenAt seed i field text ∧ field.Binds text entry
  /-- else the error names the first field whose kind does not read its text, and that text -/
  unread : ∀ action key text, built = .error (.invalidField action key text) ↔
    ¬ s.Unfillable ∧ action = s.action ∧ ∃ i field, s.GivenAt seed i field text ∧ field.key = key
      ∧ field.kind.read? text = none ∧ ∀ j < i, s.ReadsAt seed j
  /-- nothing else goes wrong -/
  others : ∀ fault, built = .error fault →
    (∃ action expected found, fault = .schemaMismatch action expected found)
      ∨ ∃ action key text, fault = .invalidField action key text

/-! ## Texts -/

theorem length_texts (s : Goal.Schema) (seed : String) :
    (s.texts seed).length = 1 + s.fields.tail.countP (·.default.isSome) := by
  rw [texts, List.length_cons, List.drop_one, List.length_filterMap_eq_countP, Nat.add_comm]

theorem unfillable_iff : s.Unfillable ↔ (s.texts seed).length ≠ s.fields.length := by
  rw [length_texts, Unfillable]
  cases s.fields with
  | nil => simp
  | cons first later =>
    have all : later.countP (·.default.isSome) = later.length ↔ ∀ field ∈ later, field.default ≠ none := by
      simp only [List.countP_eq_length, Option.isSome_iff_ne_none]
    rw [List.tail_cons, List.length_cons, Nat.add_comm 1, ne_eq, Nat.add_right_cancel_iff, all]
    simp

theorem getElem?_filterMap {fields : List Goal.Field} (all : ∀ field ∈ fields, field.default ≠ none)
    (i : Nat) : (fields.filterMap (·.default))[i]? = fields[i]?.bind (·.default) := by
  induction fields generalizing i with
  | nil => rfl
  | cons field fields ih =>
    obtain ⟨here, later⟩ := List.forall_mem_cons.mp all
    obtain ⟨text, given⟩ := Option.ne_none_iff_exists'.mp here
    rw [List.filterMap_cons_some given]
    cases i with
    | zero => exact given.symm
    | succ i => exact ih later i

/-- Where every field has a text the texts stand where their fields do. -/
theorem getElem?_texts (fillable : ¬ s.Unfillable) (i : Nat) : (s.texts seed)[i]? = s.textAt? seed i := by
  have all : ∀ field ∈ s.fields.drop 1, field.default ≠ none := by
    rw [List.drop_one]
    exact fun field member none => fillable (.inr ⟨field, member, none⟩)
  cases i with
  | zero => rfl
  | succ i =>
    rw [texts, List.getElem?_cons_succ, getElem?_filterMap all, List.getElem?_drop, textAt?,
      Nat.add_comm]

theorem getElem?_zip_texts (fillable : ¬ s.Unfillable) {p : Goal.Field × String} :
    (s.fields.zip (s.texts seed))[i]? = some p ↔ s.GivenAt seed i p.1 p.2 := by
  rw [List.getElem?_zip_eq_some, getElem?_texts fillable]
  exact ⟨fun ⟨field, text⟩ => ⟨field, text⟩, fun given => ⟨given.field, given.text⟩⟩

theorem exists_givenAt (fillable : ¬ s.Unfillable) (inside : i < s.fields.length) (seed : String) :
    ∃ field text, s.GivenAt seed i field text := by
  have fits : (s.texts seed).length = s.fields.length := not_not.mp (mt unfillable_iff.mpr fillable)
  have within : i < (s.fields.zip (s.texts seed)).length := by rwa [List.length_zip, fits, Nat.min_self]
  exact ⟨_, _, (getElem?_zip_texts fillable).mp (List.getElem?_eq_getElem within)⟩

theorem GivenAt.reads_iff (given : s.GivenAt seed i field text) :
    s.ReadsAt seed i ↔ (field.kind.read? text).isSome = true := by
  refine ⟨fun ⟨other, written, also, read⟩ => ?_, fun read => ⟨field, text, given, read⟩⟩
  obtain rfl := Option.some.inj (given.field.symm.trans also.field)
  obtain rfl := Option.some.inj (given.text.symm.trans also.text)
  exact read

/-! ## Building -/

theorem bind_eq_error {fault : DispatchFault} : s.bind field text = .error fault ↔
    field.kind.read? text = none ∧ fault = .invalidField s.action field.key text := by
  rw [bind]
  cases field.kind.read? text with
  | none => simp [eq_comm]
  | some value => simp

theorem exists_bind_eq_ok_iff :
    (∃ entry, s.bind field text = .ok entry) ↔ (field.kind.read? text).isSome = true := by
  rw [bind]
  cases field.kind.read? text <;> simp

theorem build_of_unfillable (unfillable : s.Unfillable) (seed : String) : s.build seed
    = .error (.schemaMismatch s.action s.fields.length (1 + s.fields.tail.countP (·.default.isSome))) := by
  rw [build, ← length_texts s seed]
  exact if_pos (unfillable_iff.mp unfillable)

/-- With a text for every field the first one that its kind does not read is the error. -/
theorem build_eq_error {fault : DispatchFault} (fillable : ¬ s.Unfillable) : s.build seed = .error fault ↔
    ∃ i field text, s.GivenAt seed i field text ∧ field.kind.read? text = none
      ∧ fault = .invalidField s.action field.key text ∧ ∀ j < i, s.ReadsAt seed j := by
  have fits : ¬ (s.texts seed).length ≠ s.fields.length := mt unfillable_iff.mpr fillable
  have place {i : Nat} {p : Goal.Field × String} :
      (s.fields.zip (s.texts seed))[i]? = some p ↔ s.GivenAt seed i p.1 p.2 := getElem?_zip_texts fillable
  simp only [build, if_neg fits, Config.bind_eq_error, Config.pure_eq_error, and_false, exists_false,
    or_false, Config.mapM_eq_error, place, bind_eq_error]
  constructor
  · rintro ⟨i, ⟨field, text⟩, given, ⟨unread, same⟩, before⟩
    refine ⟨i, field, text, given, unread, same, fun j low => ?_⟩
    have inside : j < s.fields.length := Nat.lt_trans low (List.getElem?_eq_some_iff.mp given.field).1
    obtain ⟨other, written, here⟩ := exists_givenAt fillable inside seed
    exact here.reads_iff.mpr (exists_bind_eq_ok_iff.mp (before j low (other, written) here))
  · rintro ⟨i, field, text, given, unread, same, before⟩
    exact ⟨i, (field, text), given, ⟨unread, same⟩,
      fun j low p here => exists_bind_eq_ok_iff.mpr (here.reads_iff.mp (before j low))⟩

theorem fillable_of_build (made : s.build seed = .ok g) : ¬ s.Unfillable :=
  fun unfillable => nomatch (build_of_unfillable unfillable seed).symm.trans made

/-- The entries of a goal are those of the fields at the same positions. -/
theorem entries_of_build (made : s.build seed = .ok g) {entry : String × Goal.Value}
    (place : g.fields[i]? = some entry) :
    ∃ field text, s.GivenAt seed i field text ∧ field.Binds text entry := by
  obtain ⟨-, -, bound⟩ := build_eq_ok.mp made
  obtain ⟨same, related⟩ := List.forall₂_iff_get.mp bound
  obtain ⟨inside, rfl⟩ := List.getElem?_eq_some_iff.mp place
  have within : i < (s.fields.zip (s.texts seed)).length := same ▸ inside
  have given := (getElem?_zip_texts (fillable_of_build made)).mp (List.getElem?_eq_getElem within)
  exact ⟨_, _, given, related i within inside⟩

theorem length_of_build (made : s.build seed = .ok g) : g.fields.length = s.fields.length := by
  rw [← List.length_map Prod.fst, keys_of_build made, List.length_map]

theorem positional_build (s : Goal.Schema) (seed : String) : s.Positional seed (s.build seed) where
  mismatch action expected found := by
    rcases Decidable.em s.Unfillable with unfillable | fillable
    · rw [build_of_unfillable unfillable]
      simp [unfillable, eq_comm]
    · rw [build_eq_error fillable]
      simp [fillable]
  made := by
    constructor
    · rintro ⟨g, made⟩
      refine ⟨fillable_of_build made, fun i inside => ?_⟩
      rw [← length_of_build made] at inside
      obtain ⟨field, text, given, binds⟩ := entries_of_build made (List.getElem?_eq_getElem inside)
      exact ⟨field, text, given, Option.isSome_of_eq_some binds.value⟩
    · rintro ⟨fillable, reads⟩
      cases outcome : s.build seed with
      | ok g => exact ⟨g, rfl⟩
      | error fault =>
        obtain ⟨i, field, text, given, unread, -, -⟩ := (build_eq_error fillable).mp outcome
        have read := given.reads_iff.mp (reads i (List.getElem?_eq_some_iff.mp given.field).1)
        rw [unread] at read
        exact nomatch read
  bound g made := ⟨(build_eq_ok.mp made).2.1, length_of_build made, fun _ _ => entries_of_build made⟩
  unread action key text := by
    rcases Decidable.em s.Unfillable with unfillable | fillable
    · rw [build_of_unfillable unfillable]
      simp [unfillable]
    · rw [build_eq_error fillable]
      constructor
      · rintro ⟨i, field, _, given, unread, same, before⟩
        obtain ⟨rfl, rfl, rfl⟩ := DispatchFault.invalidField.inj same
        exact ⟨fillable, rfl, i, field, given, rfl, unread, before⟩
      · rintro ⟨-, rfl, i, field, given, rfl, unread, before⟩
        exact ⟨i, field, text, given, unread, rfl, before⟩
  others fault failed := by
    rcases Decidable.em s.Unfillable with unfillable | fillable
    · rw [build_of_unfillable unfillable] at failed
      exact .inl ⟨_, _, _, (Except.error.inj failed).symm⟩
    · obtain ⟨_, field, text, -, -, same, -⟩ := (build_eq_error fillable).mp failed
      exact .inr ⟨_, _, _, same⟩

end Goal.Schema

/-! ## Registries -/

namespace Registry

/-- The schema of an action is the last one that was given for it. -/
theorem get?_ofSchemas (schemas : List Goal.Schema) (action : String) :
    (ofSchemas schemas).get? action = schemas.reverse.find? (·.action == action) := by
  induction schemas using List.reverseRecOn with
  | nil => rfl
  | append_singleton schemas s ih =>
    have split : ofSchemas (schemas ++ [s]) = (ofSchemas schemas).add s := List.foldl_concat ..
    rw [split, List.reverse_concat, get?, add]
    by_cases same : s.action = action
    · subst same
      rw [Assoc.get?_put_self, List.find?_cons, beq_self_eq_true]
    · rw [Assoc.get?_put_of_ne (Ne.symm same), List.find?_cons_of_neg (by simpa using same), ← ih, get?]

/-- Of every registered action a goal is made by the positions of the fields, of the schema that was
    given for it last. -/
theorem build_positional {schemas : List Goal.Schema} {action : String}
    (registered : ∃ s ∈ schemas, s.action = action) (seed : String) :
    ∃ s, schemas.reverse.find? (·.action == action) = some s ∧ s.action = action
      ∧ s.Positional seed ((ofSchemas schemas).build action seed) := by
  obtain ⟨given, member, named⟩ := registered
  have present : (schemas.reverse.find? (·.action == action)).isSome = true := by
    rw [List.find?_isSome]
    exact ⟨given, List.mem_reverse.mpr member, beq_iff_eq.mpr named⟩
  obtain ⟨s, found⟩ := Option.isSome_iff_exists.mp present
  refine ⟨s, found, by simpa using List.find?_some found, ?_⟩
  rw [build, get?_ofSchemas, found]
  exact Goal.Schema.positional_build s seed

/-- Two schemas of one action, of which the later one counts. The default of its first field is not used,
    and that of the third one is no integer. -/
def recutSchemas : List Goal.Schema :=
  [⟨"m", "Cut", "Material", [⟨"material", .text, none⟩, ⟨"count", .integer, none⟩], none⟩,
    ⟨"m", "Cut", "Length", [⟨"length", .float, some "7"⟩, ⟨"unit", .text, some "mm"⟩,
      ⟨"count", .integer, some "many"⟩, ⟨"dry", .bool, some "perhaps"⟩], none⟩]

theorem build_positional_recut : (∃ s ∈ recutSchemas, s.action = "Cut")
    ∧ (ofSchemas recutSchemas).build "Cut" "12.5" = .error (.invalidField "Cut" "count" "many") := by
  have registered : ∃ s ∈ recutSchemas, s.action = "Cut" := ⟨_, List.mem_cons_self, rfl⟩
  refine ⟨registered, ?_⟩
  obtain ⟨s, found, -, positional⟩ := build_positional registered "12.5"
  obtain rfl := Option.some.inj ((by decide +kernel : _ = some (recutSchemas[1])).symm.trans found)
  refine (positional.unread _ _ _).mpr ⟨by decide, rfl, 2, ⟨"count", .integer, some "many"⟩,
    ⟨rfl, rfl⟩, rfl, by decide +kernel, ?_⟩
  rintro (_ | _ | j) low
  · exact ⟨_, _, ⟨rfl, rfl⟩, by decide +kernel⟩
  · exact ⟨_, _, ⟨rfl, rfl⟩, by decide +kernel⟩
  · omega

end Registry
end ActionBridge
