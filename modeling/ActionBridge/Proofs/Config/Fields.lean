import ActionBridge.Config.Actions
import Mathlib.Data.List.Forall2
import Mathlib.Data.List.Nodup

/-!
# Accepted fields

The fields of a section are accepted exactly if their keys are not blank and differ as they are
written, the first one has a kind and nothing else (`Seeded`), and every later one has a default
which its kind reads (`Filled`). Then the fields of the schema are these, in their order
(`fieldsOf_eq_ok`).
-/
namespace ActionBridge.Config

/-! ## Steps -/

section Steps

variable {ε α β : Type} {b : β} {e : ε}

theorem bind_eq_ok {x : Except ε α} {f : α → Except ε β} :
    x >>= f = .ok b ↔ ∃ a, x = .ok a ∧ f a = .ok b := by
  cases x with
  | error fault => exact ⟨nofun, fun ⟨_, same, _⟩ => nomatch same⟩
  | ok a => exact ⟨fun made => ⟨a, rfl, made⟩, fun ⟨_, same, made⟩ => Except.ok.inj same ▸ made⟩

theorem require_eq_ok {p : Prop} [Decidable p] {fault : ε} {u : Unit} :
    require p fault = .ok u ↔ p := by
  by_cases holds : p <;> simp [require, holds]

theorem pure_eq_ok {a : β} : (pure a : Except ε β) = .ok b ↔ a = b := Except.ok.injEq a b ▸ Iff.rfl

theorem mapError_eq_ok {x : Except ε α} {f : ε → β} {a : α} : x.mapError f = .ok a ↔ x = .ok a := by
  cases x <;> simp [Except.mapError]

theorem bind_eq_error {x : Except ε α} {f : α → Except ε β} :
    x >>= f = .error e ↔ x = .error e ∨ ∃ a, x = .ok a ∧ f a = .error e := by
  cases x with
  | error fault => simp [bind, Except.bind]
  | ok a => simp [bind, Except.bind]

theorem require_eq_error {p : Prop} [Decidable p] {fault : ε} :
    require p fault = .error e ↔ ¬ p ∧ fault = e := by
  by_cases holds : p <;> simp [require, holds]

theorem map_eq_ok {x : Except ε α} {f : α → β} :
    x.map f = .ok b ↔ ∃ a, x = .ok a ∧ f a = b := by
  cases x <;> simp [Except.map]

theorem pure_eq_error {a : α} : (pure a : Except ε α) = .error e ↔ False := ⟨nofun, False.elim⟩

theorem mapError_eq_error {x : Except ε α} {f : ε → β} :
    x.mapError f = .error b ↔ ∃ fault, x = .error fault ∧ f fault = b := by
  cases x <;> simp [Except.mapError]

theorem mapM_eq_ok {f : α → Except ε β} {xs : List α} {ys : List β} :
    xs.mapM f = .ok ys ↔ List.Forall₂ (fun x y => f x = .ok y) xs ys := by
  induction xs generalizing ys with
  | nil =>
    rw [List.mapM_nil, List.forall₂_nil_left_iff, pure_eq_ok]
    exact eq_comm
  | cons x xs ih =>
    simp only [List.mapM_cons, bind_eq_ok, pure_eq_ok, ih, List.forall₂_cons_left_iff]
    constructor
    · rintro ⟨y, here, ys, later, rfl⟩
      exact ⟨y, ys, here, later, rfl⟩
    · rintro ⟨y, ys, here, later, rfl⟩
      exact ⟨y, here, ys, later, rfl⟩

/-- The first error ends it. -/
theorem mapM_eq_error {f : α → Except ε β} {xs : List α} : xs.mapM f = .error e ↔
    ∃ (i : Nat) (x : α), xs[i]? = some x ∧ f x = .error e
      ∧ ∀ j < i, ∀ y, xs[j]? = some y → ∃ b, f y = .ok b := by
  induction xs with
  | nil => simp [pure_eq_error]
  | cons x xs ih =>
    simp only [List.mapM_cons, bind_eq_error, pure_eq_error, and_false, exists_false, or_false, ih]
    constructor
    · rintro (here | ⟨b, first, i, y, place, fails, before⟩)
      · exact ⟨0, x, rfl, here, fun j low => absurd low (Nat.not_lt_zero j)⟩
      · refine ⟨i + 1, y, place, fails, fun j low z found => ?_⟩
        cases j with
        | zero => exact ⟨b, Option.some.inj found ▸ first⟩
        | succ j => exact before j (Nat.lt_of_succ_lt_succ low) z found
    · rintro ⟨i, y, place, fails, before⟩
      cases i with
      | zero => exact .inl (Option.some.inj place ▸ fails)
      | succ i =>
        obtain ⟨b, first⟩ := before 0 (Nat.zero_lt_succ i) x rfl
        exact .inr ⟨b, first, i, y, place, fails,
          fun j low => before (j + 1) (Nat.succ_lt_succ low)⟩

end Steps

/-! ## Names -/

/-- The names are not blank, and differ from each other and from those that were seen before. -/
structure Fresh (seen names : List String) : Prop where
  solid : ∀ name ∈ names, Text.isAllBlank name = false
  unseen : ∀ name ∈ names, name ∉ seen
  distinct : names.Nodup

variable {seen names : List String}

theorem fresh_nil (seen : List String) : Fresh seen [] := ⟨nofun, nofun, List.nodup_nil⟩

theorem fresh_append {first later : List String} :
    Fresh seen (first ++ later) ↔ Fresh seen first ∧ Fresh (first ++ seen) later := by
  constructor
  · rintro ⟨solid, unseen, distinct⟩
    rw [List.forall_mem_append] at solid unseen
    obtain ⟨here, there, apart⟩ := List.nodup_append.mp distinct
    refine ⟨⟨solid.1, unseen.1, here⟩, solid.2, fun name member among => ?_, there⟩
    rcases List.mem_append.mp among with before | before
    · exact apart name before name member rfl
    · exact unseen.2 name member before
  · rintro ⟨here, there⟩
    refine ⟨List.forall_mem_append.mpr ⟨here.solid, there.solid⟩,
      List.forall_mem_append.mpr ⟨here.unseen, fun name member among => ?_⟩,
      List.nodup_append.mpr ⟨here.distinct, there.distinct, ?_⟩⟩
    · exact there.unseen name member (List.mem_append_right _ among)
    · rintro name before other member rfl
      exact there.unseen name member (List.mem_append_left _ before)

theorem fresh_cons {name : String} : Fresh seen (name :: names) ↔
    Text.isAllBlank name = false ∧ name ∉ seen ∧ Fresh (name :: seen) names := by
  have one : Fresh seen [name] ↔ Text.isAllBlank name = false ∧ name ∉ seen :=
    ⟨fun ⟨solid, unseen, _⟩ => ⟨solid name List.mem_cons_self, unseen name List.mem_cons_self⟩,
      fun ⟨solid, unseen⟩ => ⟨by simpa using solid, by simpa using unseen, List.nodup_singleton _⟩⟩
  rw [← List.singleton_append, fresh_append, one, and_assoc]
  rfl

/-! ## Single fields -/

variable {f : Section.Field} {fs : List Section.Field} {spec : Goal.Field}
  {specs : List Goal.Field} {kind : Goal.Kind}

/-- `spec` is the field `f` in the first place, which takes its text from the goal element. -/
structure Seeded (f : Section.Field) (spec : Goal.Field) : Prop where
  key : spec.key = Text.trim f.key
  kind : Goal.Kind.ofName? f.kind = some spec.kind
  bare : f.default = none
  default : spec.default = none

/-- `spec` is the field `f` in a later place, whose text is that of its default. -/
structure Filled (f : Section.Field) (spec : Goal.Field) : Prop where
  key : spec.key = Text.trim f.key
  kind : Goal.Kind.ofName? f.kind = some spec.kind
  default : ∃ v text, f.default = some v ∧ scalarText? v = some text ∧
    (spec.kind.read? text).isSome ∧ spec.default = some text

theorem textOfDefault_eq_ok {key text : String} {v : Toml.Value} :
    textOfDefault key kind v = .ok text ↔ scalarText? v = some text ∧ (kind.read? text).isSome := by
  rw [textOfDefault]
  cases scalarText? v with
  | none => simp
  | some written =>
    by_cases read : (kind.read? written).isSome
    · simp only [read, if_true, Except.ok.injEq, Option.some.injEq]
      exact ⟨fun same => ⟨same, same ▸ read⟩, And.left⟩
    · simp only [read, Bool.false_eq_true, if_false, Option.some.injEq]
      exact ⟨nofun, fun ⟨same, reads⟩ => absurd (same ▸ reads) read⟩

theorem defaultOf_first_eq_ok {default : Option String} :
    defaultOf true f kind = .ok default ↔ f.default = none ∧ default = none := by
  rw [defaultOf.eq_def]
  cases f.default <;> simp [eq_comm]

theorem defaultOf_later_eq_ok {default : Option String} :
    defaultOf false f kind = .ok default ↔ ∃ v text, f.default = some v ∧
      scalarText? v = some text ∧ (kind.read? text).isSome ∧ default = some text := by
  rw [defaultOf.eq_def]
  cases f.default with
  | none => simp
  | some v =>
    dsimp only
    cases made : textOfDefault f.key kind v with
    | error fault =>
      refine ⟨nofun, fun ⟨_, text, same, written, reads, _⟩ => ?_⟩
      obtain rfl := Option.some.inj same
      exact nomatch made.symm.trans (textOfDefault_eq_ok.mpr ⟨written, reads⟩)
    | ok text =>
      obtain ⟨written, reads⟩ := textOfDefault_eq_ok.mp made
      constructor
      · intro same
        exact ⟨v, text, rfl, written, reads, (Except.ok.inj same).symm⟩
      · rintro ⟨_, other, same, there, -, rfl⟩
        obtain rfl := Option.some.inj same
        obtain rfl := Option.some.inj (written.symm.trans there)
        rfl

/-- What is asked of any field. -/
theorem fieldOf_eq_ok {isFirst : Bool} : fieldOf seen isFirst f = .ok spec ↔
    Text.isAllBlank f.key = false ∧ f.key ∉ seen ∧ spec.key = Text.trim f.key ∧
      Goal.Kind.ofName? f.kind = some spec.kind ∧
      defaultOf isFirst f spec.kind = .ok spec.default := by
  simp only [fieldOf, bind_eq_ok, require_eq_ok, exists_const, Bool.not_eq_true]
  refine and_congr_right fun _ => and_congr_right fun _ => ?_
  cases named : Goal.Kind.ofName? f.kind with
  | none => simp
  | some kind =>
    simp only [bind_eq_ok, pure_eq_ok]
    constructor
    · rintro ⟨default, made, rfl⟩
      exact ⟨rfl, rfl, made⟩
    · rintro ⟨key, same, made⟩
      obtain rfl := Option.some.inj same
      exact ⟨spec.default, made, by rw [← key]⟩

theorem fieldOf_first_eq_ok : fieldOf seen true f = .ok spec ↔
    Text.isAllBlank f.key = false ∧ f.key ∉ seen ∧ Seeded f spec := by
  rw [fieldOf_eq_ok, defaultOf_first_eq_ok]
  exact and_congr_right fun _ => and_congr_right fun _ =>
    ⟨fun ⟨key, kind, bare, default⟩ => ⟨key, kind, bare, default⟩,
      fun seeded => ⟨seeded.key, seeded.kind, seeded.bare, seeded.default⟩⟩

theorem fieldOf_later_eq_ok : fieldOf seen false f = .ok spec ↔
    Text.isAllBlank f.key = false ∧ f.key ∉ seen ∧ Filled f spec := by
  rw [fieldOf_eq_ok, defaultOf_later_eq_ok]
  exact and_congr_right fun _ => and_congr_right fun _ =>
    ⟨fun ⟨key, kind, default⟩ => ⟨key, kind, default⟩,
      fun filled => ⟨filled.key, filled.kind, filled.default⟩⟩

/-! ## All fields -/

theorem laterFields_eq_ok : laterFields seen fs = .ok specs ↔
    Fresh seen (fs.map (·.key)) ∧ List.Forall₂ Filled fs specs := by
  induction fs generalizing seen specs with
  | nil =>
    rw [laterFields, Except.ok.injEq, List.forall₂_nil_left_iff]
    exact ⟨fun same => ⟨fresh_nil seen, same.symm⟩, fun same => same.2.symm⟩
  | cons f fs ih =>
    simp only [laterFields, bind_eq_ok, pure_eq_ok, ih, fieldOf_later_eq_ok, List.map_cons,
      fresh_cons, List.forall₂_cons_left_iff]
    constructor
    · rintro ⟨spec, ⟨solid, fresh, filled⟩, specs, ⟨keyed, later⟩, rfl⟩
      exact ⟨⟨solid, fresh, keyed⟩, spec, specs, filled, later, rfl⟩
    · rintro ⟨⟨solid, fresh, keyed⟩, spec, specs, filled, later, rfl⟩
      exact ⟨spec, ⟨solid, fresh, filled⟩, specs, ⟨keyed, later⟩, rfl⟩

/-- The fields of a schema are those of a section, of which there is at least one. -/
inductive Fields : List Section.Field → List Goal.Field → Prop
  | cons {f : Section.Field} {fs : List Section.Field} {spec : Goal.Field} {specs : List Goal.Field}
      (first : Seeded f spec) (later : List.Forall₂ Filled fs specs) :
      Fields (f :: fs) (spec :: specs)

/-- The fields of a section are accepted exactly if they are those of a schema and have keys. -/
theorem fieldsOf_eq_ok : fieldsOf fs = .ok specs ↔ Fresh [] (fs.map (·.key)) ∧ Fields fs specs := by
  cases fs with
  | nil => exact ⟨nofun, nofun⟩
  | cons f fs =>
    simp only [fieldsOf, bind_eq_ok, pure_eq_ok, fieldOf_first_eq_ok, laterFields_eq_ok,
      List.map_cons, fresh_cons]
    constructor
    · rintro ⟨spec, ⟨solid, fresh, first⟩, specs, ⟨keyed, later⟩, rfl⟩
      exact ⟨⟨solid, fresh, keyed⟩, .cons first later⟩
    · rintro ⟨⟨solid, fresh, keyed⟩, ⟨first, later⟩⟩
      exact ⟨_, ⟨solid, fresh, first⟩, _, ⟨keyed, later⟩, rfl⟩

end ActionBridge.Config
