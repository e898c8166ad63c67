import ActionBridge.Proofs.Goal.Building
import ActionBridge.Proofs.Json.Documents

/-!
# Goals on the wire

A goal arrives as an object with a member for each field, in order. Texts, integers and truth values
arrive as they are, and a float as a number, unless its text stands for none that is finite: that one
arrives as null (`wire_of_build`).
-/
namespace ActionBridge

/-! ## Values -/

theorem Decimal.fits_of_real? {text : String} {negative : Bool} {s : Nat} {e : Int}
    (read : Decimal.real? text = some (.finite negative s e)) : Binary64.Fits s e := by
  rw [real?] at read
  generalize signed text.toList = parts at read
  obtain ⟨sign, cs⟩ := parts
  dsimp only at read
  split_ifs at read
  · cases read
  · cases read
  · obtain ⟨⟨coefficient, power⟩, -, finite⟩ := Option.map_eq_some_iff.mp read
    exact Binary64.fits_of_ofDecimal finite

theorem Decimal.bounds_of_int64? {text : String} {i : Int} (read : Decimal.int64? text = some i) :
    -2 ^ 63 ≤ i ∧ i < 2 ^ 63 := by
  rw [int64?, integerWithin?] at read
  generalize signed text.toList = parts at read
  obtain ⟨sign, ds⟩ := parts
  obtain ⟨n, -, within⟩ := Option.bind_eq_some_iff.mp read
  obtain ⟨bounds, same⟩ := Option.ite_none_right_eq_some.mp within
  have limit : ((Nat.pow 2 63 : Nat) : Int) = 2 ^ 63 := rfl
  rw [Option.some.inj same] at bounds
  omega

/-- What arrives for a text that a kind has read. -/
def Goal.Kind.Arrives (kind : Goal.Kind) (text : String) (received : Json) : Prop :=
  match kind with
  | .text => received = .string (Text.trim text)
  | .float => ∃ x, Decimal.real? (Text.trim text) = some x
      ∧ if x.isFinite then ∃ y, received = .real y ∧ y.isFinite = true else received = .null
  | .integer => ∃ i, Decimal.int64? (Text.trim text) = some i ∧ received = .integer i
  | .bool => ∃ flag, truthOfName? (Text.trim text) = some flag ∧ received = .boolean flag

/-- The value of a kind is written so that it arrives. -/
theorem Goal.Kind.exists_arrives {kind : Goal.Kind} {text : String} {value : Goal.Value}
    (read : kind.read? text = some value) :
    ∃ received, value.toJson.ReadsAs received ∧ kind.Arrives text received := by
  simp only [Arrives]
  cases kind with
  | text =>
    obtain rfl := Option.some.inj read
    exact ⟨_, Json.readsAs_string _, rfl⟩
  | integer =>
    rw [read?, Option.map_eq_some_iff] at read
    obtain ⟨i, number, rfl⟩ := read
    obtain ⟨low, high⟩ := Decimal.bounds_of_int64? number
    exact ⟨_, Json.readsAs_integer low high, i, number, rfl⟩
  | bool =>
    rw [read?, Option.map_eq_some_iff] at read
    obtain ⟨flag, named, rfl⟩ := read
    exact ⟨_, Json.readsAs_boolean flag, flag, named, rfl⟩
  | float =>
    rw [read?, Option.map_eq_some_iff] at read
    obtain ⟨x, number, rfl⟩ := read
    cases x with
    | finite negative s e =>
      obtain ⟨y, reads, finite⟩ := Json.readsAs_real negative (Decimal.fits_of_real? number)
      exact ⟨.real y, reads, _, number, y, rfl, finite⟩
    | infinite negative => exact ⟨.null, Json.readsAs_null, _, number, rfl⟩
    | nan => exact ⟨.null, Json.readsAs_null, _, number, rfl⟩

/-- Nothing but a float that is not finite arrives as null. -/
theorem Goal.Kind.Arrives.ne_null_iff {kind : Goal.Kind} {text : String} {received : Json}
    (arrives : kind.Arrives text received) : received ≠ .null
      ↔ (kind = .float → ∀ x, Decimal.real? (Text.trim text) = some x → x.isFinite = true) := by
  cases kind with
  | text =>
    simp only [Arrives] at arrives
    simp [arrives]
  | integer =>
    obtain ⟨i, -, rfl⟩ := arrives
    simp
  | bool =>
    obtain ⟨flag, -, rfl⟩ := arrives
    simp
  | float =>
    obtain ⟨x, number, arrived⟩ := arrives
    split at arrived
    · rename_i finite
      obtain ⟨y, rfl, -⟩ := arrived
      simp [number, finite]
    · rename_i infinite
      simp [number, infinite, arrived]

/-! ## Goals -/

namespace Registry

variable {r : Registry} {s : Goal.Schema} {g : Goal} {action seed : String}

theorem build_of_get? (served : r.get? action = some s) : r.build action seed = s.build seed := by
  rw [build, served]

/-- Every bound value is written so that it arrives under its key. -/
theorem exists_members_of_binds {pairs : List (Goal.Field × String)} {entries : List (String × Goal.Value)}
    (bound : List.Forall₂ (fun p e => p.1.Binds p.2 e) pairs entries) :
    ∃ members : List (String × Json),
      List.Forall₂ Json.MemberReadsAs (entries.map fun e => (e.1, e.2.toJson)) members
        ∧ List.Forall₂ (fun p m => p.1.kind.Arrives p.2 m.2) pairs members := by
  induction bound with
  | nil => exact ⟨[], .nil, .nil⟩
  | @cons p e pairs entries binds _ ih =>
    obtain ⟨members, read, arrive⟩ := ih
    obtain ⟨received, reads, arrives⟩ := Goal.Kind.exists_arrives binds.value
    exact ⟨(e.1, received) :: members, .cons ⟨rfl, reads⟩ read, .cons arrives arrive⟩

theorem ne_null_iff_of_arrives {pairs : List (Goal.Field × String)} {members : List (String × Json)}
    (arrive : List.Forall₂ (fun p m => p.1.kind.Arrives p.2 m.2) pairs members) :
    (∀ m ∈ members, m.2 ≠ .null) ↔ ∀ p ∈ pairs,
      p.1.kind = .float → ∀ x, Decimal.real? (Text.trim p.2) = some x → x.isFinite = true := by
  induction arrive with
  | nil => simp
  | cons first _ ih => rw [List.forall_mem_cons, List.forall_mem_cons, ih, first.ne_null_iff]

/-- A goal whose keys differ arrives field by field, each as a value of its kind. Only a float that is
    not finite arrives as null. -/
theorem wire_of_build (served : r.get? action = some s) (distinct : (s.fields.map (·.key)).Nodup)
    (made : r.build action seed = .ok g) : ∃ members,
      Json.ofText? g.toJson.text = some (.object members)
        ∧ members.map Prod.fst = s.fields.map (·.key)
        ∧ List.Forall₂ (fun p m => p.1.kind.Arrives p.2 m.2) (s.fields.zip (s.texts seed)) members
        ∧ ((∀ m ∈ members, m.2 ≠ .null) ↔ ∀ p ∈ s.fields.zip (s.texts seed),
            p.1.kind = .float → ∀ x, Decimal.real? (Text.trim p.2) = some x → x.isFinite = true) := by
  rw [build_of_get? served] at made
  obtain ⟨-, -, bound⟩ := Goal.Schema.build_eq_ok.mp made
  obtain ⟨members, read, arrive⟩ := exists_members_of_binds bound
  have keys : g.wired.map Prod.fst = s.fields.map (·.key) :=
    (Goal.keys_wired g).trans (Goal.Schema.keys_of_build made)
  have written : g.toJson = .object g.wired := by
    rw [Goal.toJson_eq, Assoc.ofPairs_eq_self_iff.mpr (keys ▸ distinct)]
  have arrived : Json.ofText? g.toJson.text = some (.object members) := by
    rw [written]
    exact Json.ofText?_object read (keys ▸ distinct)
  exact ⟨members, arrived, (Json.keys_of_readsAs read).symm.trans keys, arrive, ne_null_iff_of_arrives arrive⟩

/-- An action with a field of every kind. -/
def mixedSchema : Goal.Schema where
  space := "m"
  action := "Cut"
  goalElement := "MaterialType"
  fields := [⟨"material", .text, none⟩, ⟨"count", .integer, some "-9223372036854775808"⟩,
    ⟨"length", .float, some " 32.2"⟩, ⟨"dry", .bool, some "TRUE"⟩]
  resultField := none

theorem wire_of_build_mixed : ∃ g members,
    (Registry.ofSchemas [mixedSchema]).build "Cut" " 12\" bar " = .ok g
      ∧ Json.ofText? g.toJson.text = some (.object members)
      ∧ members.map Prod.fst = ["material", "count", "length", "dry"]
      ∧ (∀ m ∈ members, m.2 ≠ .null) := by
  have built : ((Registry.ofSchemas [mixedSchema]).build "Cut" " 12\" bar ").toOption.isSome = true := by
    decide +kernel
  have finite : ∀ p ∈ mixedSchema.fields.zip (mixedSchema.texts " 12\" bar "), p.1.kind = .float →
      (Decimal.real? (Text.trim p.2)).map Binary64.isFinite = some true := by decide +kernel
  cases made : (Registry.ofSchemas [mixedSchema]).build "Cut" " 12\" bar " with
  | error fault =>
    rw [made] at built
    cases built
  | ok g =>
    obtain ⟨members, arrived, keys, -, whole⟩ :=
      wire_of_build (by decide +kernel : _ = some mixedSchema) (by decide) made
    refine ⟨g, members, rfl, arrived, keys, whole.mpr fun p member float x number => ?_⟩
    have at_most := finite p member float
    rw [number] at at_most
    exact Option.some.inj at_most

/-- A number that is too great for a float is no error, as it is for an integer: it is sent as null. -/
theorem null_of_overflow : ∃ s g, s.fields = [⟨"length", .float, none⟩]
    ∧ (Registry.ofSchemas [s]).build "Cut" "1e400" = .ok g
    ∧ g.fields = [("length", .float (.infinite false))]
    ∧ Json.ofText? g.toJson.text = some (.object [("length", .null)]) := by
  refine ⟨⟨"m", "Cut", "Length", [⟨"length", .float, none⟩], none⟩,
    ⟨"Cut", [("length", .float (.infinite false))]⟩, rfl, by decide +kernel, rfl, ?_⟩
  exact Json.ofText?_object (.cons ⟨rfl, Json.readsAs_null⟩ .nil) (by decide)

end Registry

end ActionBridge
