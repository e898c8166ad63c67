import ActionBridge.Proofs.Assoc
import ActionBridge.Proofs.Json.Reals

/-!
# Objects in JSON

The text of an object whose members are no arrays and no objects is read back member by member, each
under its key and in its place (`ofText?_object`).
-/
namespace ActionBridge.Json
open Decimal

/-! ## Values -/

/-- The value is written in a form that means the value `received` to a reader. -/
def ReadsAs (sent received : Json) : Prop :=
  ∃ form : Form, (∀ fuel rest, Ends rest → readForm (fuel + 1) (symbolsOf sent.chars ++ rest) = some (form, rest))
    ∧ ∀ room, form.valueWithin room = some received

theorem skipSpace_cons {c : Char} (other : isSpace (some c) = false) (rest : List Symbol) :
    skipSpace (some c :: rest) = some c :: rest := by
  simp [skipSpace, other]

theorem readsAs_null : Json.null.ReadsAs .null := ⟨.null, fun _ _ _ => rfl, fun _ => rfl⟩

theorem readsAs_boolean (flag : Bool) : (Json.boolean flag).ReadsAs (.boolean flag) := by
  cases flag <;> exact ⟨.boolean _, fun _ _ _ => rfl, fun _ => rfl⟩

theorem symbolsOf_quote (s : String) (rest : List Symbol) : symbolsOf (quote s) ++ rest
    = some '"' :: (symbolsOf (s.toList.flatMap escape) ++ some '"' :: rest) := by
  rw [quote, List.cons_append, symbolsOf_cons, symbolsOf_append, List.cons_append, List.append_assoc]
  rfl

theorem readsAs_string (s : String) : (Json.string s).ReadsAs (.string s) := by
  refine ⟨.string (s.toList.map glyphOf), fun fuel rest _ => ?_, fun room => ?_⟩
  · rw [chars, symbolsOf_quote, readForm, skipSpace_cons (by decide)]
    simp only [readGlyphs_flatMap, Option.map_some]
  · rw [Form.valueWithin, glyphText?_glyphOf, Option.map_some]

/-- A number begins with a digit or a sign. -/
theorem Numeral.Formed.head {n : Numeral} (formed : n.Formed) :
    ∃ c cs, n.chars = c :: cs ∧ (isDigit c = true ∨ c = '-') := by
  obtain ⟨c, cs, whole⟩ := List.exists_cons_of_ne_nil formed.whole.some
  rw [Numeral.chars]
  cases n.negative
  · exact ⟨c, _, by rw [whole]; rfl, .inl (formed.whole.digits c (whole ▸ List.mem_cons_self))⟩
  · exact ⟨'-', _, rfl, .inr rfl⟩

theorem readForm_numeral {n : Numeral} (formed : n.Formed) (fuel : Nat) {rest : List Symbol}
    (ends : Ends rest) : readForm (fuel + 1) (symbolsOf n.chars ++ rest) = some (.number n, rest) := by
  have read := readNumeral_chars formed ends
  obtain ⟨c, cs, begins, first⟩ := formed.head
  rw [begins, symbolsOf_cons, List.cons_append] at read ⊢
  have other {d : Char} (no_digit : isDigit d = false) (no_sign : d ≠ '-') : c ≠ d := by
    rintro rfl
    rcases first with digit | sign
    · cases no_digit.symm.trans digit
    · exact no_sign sign
  have space : isSpace (some c) = false := by
    simp [isSpace, other (d := ' ') (by decide) (by decide), other (d := '\t') (by decide) (by decide),
      other (d := '\n') (by decide) (by decide), other (d := '\r') (by decide) (by decide)]
  rw [readForm, skipSpace_cons space]
  split
  case h_7 => rw [read, Option.map_some]
  all_goals
    rename_i same
    exact absurd (Option.some.inj (List.cons.inj same).1) (other (by decide) (by decide))

theorem readsAs_number {j j' : Json} {n : Numeral} (formed : n.Formed) (chars : n.chars = j.chars)
    (value : n.value = some j') : j.ReadsAs j' :=
  ⟨.number n, fun fuel _ ends => chars ▸ readForm_numeral formed fuel ends, fun _ => value⟩

theorem readsAs_integer {i : Int} (low : -2 ^ 63 ≤ i) (high : i < 2 ^ 63) :
    (Json.integer i).ReadsAs (.integer i) :=
  readsAs_number (formed_numeralOf i) (by rw [chars_numeralOf, Json.chars]) (value_numeralOf low high)

theorem readsAs_real (negative : Bool) {s : Nat} {e : Int} (fits : Binary64.Fits s e) :
    ∃ y, (Json.real (.finite negative s e)).ReadsAs (.real y) ∧ y.isFinite = true := by
  obtain ⟨n, formed, written, y, value, finite⟩ := exists_numeral_write negative fits
  exact ⟨y, readsAs_number formed (by rw [written, Json.chars]) value, finite⟩

/-! ## Members -/

theorem ends_cons {c : Char} (other : isDigit c = false ∧ c ≠ '.' ∧ c ≠ 'e' ∧ c ≠ 'E')
    (rest : List Symbol) : Ends (some c :: rest) := by
  intro d more same
  obtain rfl := Option.some.inj (List.cons.inj same).1
  exact other

/-- A member with another one behind it. -/
theorem readMembers_comma {value : Json} {form : Form} {fuel : Nat} {rest : List Symbol} (key : String)
    (read : readForm fuel (symbolsOf value.chars ++ some ',' :: rest) = some (form, some ',' :: rest)) :
    readMembers (fuel + 1) (symbolsOf (quote key ++ ':' :: value.chars) ++ some ',' :: rest)
      = (readMembers fuel rest).map fun (members, r) => ((key.toList.map glyphOf, form) :: members, r) := by
  rw [symbolsOf_append, List.append_assoc, symbolsOf_quote, readMembers, skipSpace_cons (by decide)]
  simp only [readGlyphs_flatMap, symbolsOf_cons, List.cons_append, read,
    skipSpace_cons (by decide : isSpace (some ':') = false), skipSpace_cons (by decide : isSpace (some ',') = false)]

/-- The last member. -/
theorem readMembers_brace {value : Json} {form : Form} {fuel : Nat} {rest : List Symbol} (key : String)
    (read : readForm fuel (symbolsOf value.chars ++ some '\x7d' :: rest) = some (form, some '\x7d' :: rest)) :
    readMembers (fuel + 1) (symbolsOf (quote key ++ ':' :: value.chars) ++ some '\x7d' :: rest)
      = some ([(key.toList.map glyphOf, form)], rest) := by
  rw [symbolsOf_append, List.append_assoc, symbolsOf_quote, readMembers, skipSpace_cons (by decide)]
  simp only [readGlyphs_flatMap, symbolsOf_cons, List.cons_append, read,
    skipSpace_cons (by decide : isSpace (some ':') = false),
    skipSpace_cons (by decide : isSpace (some '\x7d') = false)]

/-- A member is read under its key. -/
structure MemberReadsAs (sent received : String × Json) : Prop where
  key : sent.1 = received.1
  value : sent.2.ReadsAs received.2

theorem keys_of_readsAs {members members' : List (String × Json)}
    (read : List.Forall₂ MemberReadsAs members members') :
    members.map Prod.fst = members'.map Prod.fst := by
  induction read with
  | nil => rfl
  | cons first _ ih => rw [List.map_cons, List.map_cons, first.key, ih]

/-- The members are read, and their values in the same places. -/
theorem readMembers_memberChars {members members' : List (String × Json)}
    (read : List.Forall₂ MemberReadsAs members members')
    (some_of : members ≠ []) {fuel : Nat} (enough : members.length < fuel) (rest : List Symbol) :
    ∃ forms, readMembers fuel (symbolsOf (memberChars members) ++ some '\x7d' :: rest) = some (forms, rest)
      ∧ ∀ room, memberValues room forms = some members' := by
  induction read generalizing fuel with
  | nil => exact absurd rfl some_of
  | @cons m m' ms ms' first later ih =>
    obtain ⟨key, value⟩ := m
    obtain ⟨key', value'⟩ := m'
    obtain ⟨rfl, form, reads, means⟩ := first
    rw [List.length_cons] at enough
    obtain ⟨fuel, rfl⟩ : ∃ less, fuel = less + 2 := ⟨fuel - 2, by omega⟩
    cases later with
    | nil =>
      refine ⟨[(key.toList.map glyphOf, form)], ?_, fun room => ?_⟩
      · rw [memberChars, readMembers_brace key (reads fuel _ (ends_cons (by decide) rest))]
      · simp only [memberValues, glyphText?_glyphOf, means]
    | cons second later =>
      obtain ⟨forms, further, mean⟩ := ih nofun (by omega : _ < fuel + 1)
      refine ⟨(key.toList.map glyphOf, form) :: forms, ?_, fun room => ?_⟩
      · rw [memberChars, symbolsOf_append, List.append_assoc, symbolsOf_cons, List.cons_append,
          readMembers_comma key (reads fuel _ (ends_cons (by decide) _)), further, Option.map_some]
        · exact nofun
      · simp only [memberValues, glyphText?_glyphOf, means, mean]

theorem memberChars_cons (key : String) (value : Json) (members : List (String × Json)) :
    ∃ cs, memberChars ((key, value) :: members) = '"' :: cs := by
  cases members with
  | nil => exact ⟨_, rfl⟩
  | cons m ms => exact ⟨_, rfl⟩

theorem length_le_memberChars (members : List (String × Json)) :
    members.length ≤ (memberChars members).length := by
  induction members with
  | nil => exact Nat.zero_le _
  | cons m ms ih =>
    obtain ⟨key, value⟩ := m
    cases ms with
    | nil =>
      obtain ⟨cs, begins⟩ := memberChars_cons key value []
      rw [begins]
      simp
    | cons m' ms =>
      rw [memberChars]
      · simp at ih ⊢
        omega
      · exact nofun

theorem readForm_object {members members' : List (String × Json)}
    (read : List.Forall₂ MemberReadsAs members members') {fuel : Nat}
    (enough : members.length < fuel) :
    ∃ forms, readForm (fuel + 1) (symbolsOf (Json.object members).chars) = some (.object forms, [])
      ∧ ∀ room, memberValues room forms = some members' := by
  cases members with
  | nil =>
    cases read
    exact ⟨[], rfl, fun _ => rfl⟩
  | cons m ms =>
    obtain ⟨key, value⟩ := m
    obtain ⟨forms, reads, means⟩ := readMembers_memberChars read nofun enough []
    obtain ⟨cs, begins⟩ := memberChars_cons key value ms
    refine ⟨forms, ?_, means⟩
    rw [begins, symbolsOf_cons, List.cons_append] at reads
    rw [Json.chars, begins, List.cons_append, List.cons_append, symbolsOf_cons, symbolsOf_cons,
      symbolsOf_append, readForm, skipSpace_cons (by decide)]
    simp only [skipSpace_cons (by decide : isSpace (some '"') = false)]
    exact congrArg (Option.map fun (members, r) => (Form.object members, r)) reads

/-- An object of such values is read back, if no key stands twice. -/
theorem ofText?_object {members members' : List (String × Json)}
    (read : List.Forall₂ MemberReadsAs members members')
    (distinct : (members.map Prod.fst).Nodup) :
    ofText? (Json.object members).text = some (.object members') := by
  have kept : Json.ofMembers members' = .object members' := by
    rw [Json.ofMembers, Assoc.ofPairs_eq_self_iff.mpr (keys_of_readsAs read ▸ distinct)]
  have enough : members.length < 2 * (symbolsOf (Json.object members).chars).length + 1 := by
    have le := length_le_memberChars members
    rw [symbolsOf, List.length_map, Json.chars, List.length_append, List.length_cons]
    omega
  obtain ⟨forms, reads, means⟩ := readForm_object read enough
  have form : Form.read? (symbolsOf (Json.object members).chars) = some (.object forms) := by
    rw [Form.read?, reads]
    rfl
  have room : ¬ nestingBound ≤ 1 := by decide
  rw [ofText?, Json.text, String.toList_ofList, read?, ← symbolsOf, form, Option.bind_some,
    Form.valueWithin, if_neg room, means, Option.map_some, kept]

end ActionBridge.Json
