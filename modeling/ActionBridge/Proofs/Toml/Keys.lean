import ActionBridge.Proofs.Assoc
import ActionBridge.Toml.Document

/-!
# Keys of documents

No table of a document has a key twice, at whatever depth it stands (`keyed_of_read`). Every way to
add to a table under construction keeps it so, whatever lines come.
-/
namespace ActionBridge.Toml

/-- No table in the value has a key twice. -/
inductive Value.Keyed : Value → Prop
  | string (text : String) : Keyed (.string text)
  | integer (number : Int) : Keyed (.integer number)
  | float (number : Binary64) : Keyed (.float number)
  | boolean (flag : Bool) : Keyed (.boolean flag)
  | datetime (text : String) : Keyed (.datetime text)
  | array {items : List Value} (inner : ∀ v ∈ items, Keyed v) : Keyed (.array items)
  | table {entries : List (String × Value)} (keys : (entries.map Prod.fst).Nodup)
      (inner : ∀ e ∈ entries, Keyed e.2) : Keyed (.table entries)

/-- No table in the unfinished item has a key twice. -/
inductive Item.Keyed : Item → Prop
  | value {v : Value} (keyed : v.Keyed) : Keyed (.value v)
  | table {origin : Origin} {entries : List (String × Item)} (keys : (entries.map Prod.fst).Nodup)
      (inner : ∀ e ∈ entries, Keyed e.2) : Keyed (.table origin entries)
  | tables {rows : List (List (String × Item))} (keys : ∀ row ∈ rows, (row.map Prod.fst).Nodup)
      (inner : ∀ row ∈ rows, ∀ e ∈ row, Keyed e.2) : Keyed (.tables rows)

structure Entries.Keyed (entries : Entries) : Prop where
  keys : (entries.map Prod.fst).Nodup
  inner : ∀ e ∈ entries, e.2.Keyed

variable {entries entries₁ : Entries} {key : String} {item : Item} {origin : Origin}
  {rows : List Entries}

theorem Item.keyed_table_iff : (Item.table origin entries).Keyed ↔ entries.Keyed := by
  constructor
  · intro keyed
    cases keyed with
    | table keys inner => exact ⟨keys, inner⟩
  · rintro ⟨keys, inner⟩
    exact .table keys inner

theorem Item.keyed_tables_iff : (Item.tables rows).Keyed ↔ ∀ row ∈ rows, Entries.Keyed row := by
  constructor
  · intro keyed row member
    cases keyed with
    | tables keys inner => exact ⟨keys row member, inner row member⟩
  · intro keyed
    exact .tables (fun row member => (keyed row member).keys) fun row member => (keyed row member).inner

/-! ## Finished values -/

theorem finishEntries_eq (entries : List (String × Item)) :
    finishEntries entries = entries.map fun e => (e.1, e.2.finish) := by
  induction entries with
  | nil => rfl
  | cons e entries ih => rw [finishEntries, ih, List.map_cons]

theorem finishRows_eq (rows : List (List (String × Item))) :
    finishRows rows = rows.map fun row => .table (finishEntries row) := by
  induction rows with
  | nil => rfl
  | cons row rows ih => rw [finishRows, ih, List.map_cons]

theorem keyed_table_of_finished {entries : List (String × Item)} (keys : (entries.map Prod.fst).Nodup)
    (inner : ∀ e ∈ entries, e.2.finish.Keyed) : (Value.table (finishEntries entries)).Keyed := by
  rw [finishEntries_eq]
  apply Value.Keyed.table
  · rwa [List.map_map]
  · intro e member
    obtain ⟨e, among, rfl⟩ := List.mem_map.mp member
    exact inner e among

theorem Item.Keyed.finish (keyed : item.Keyed) : item.finish.Keyed := by
  induction keyed with
  | value keyed =>
    rw [Item.finish]
    exact keyed
  | table keys _ ih =>
    rw [Item.finish]
    exact keyed_table_of_finished keys ih
  | tables keys _ ih =>
    rw [Item.finish, finishRows_eq]
    apply Value.Keyed.array
    intro v member
    obtain ⟨row, among, rfl⟩ := List.mem_map.mp member
    exact keyed_table_of_finished (keys row among) (ih row among)

/-! ## Tables under construction -/

namespace Entries.Keyed

theorem nil : Entries.Keyed [] := ⟨List.nodup_nil, nofun⟩

theorem of_find? (keyed : entries.Keyed) (found : entries.find? key = some item) : item.Keyed :=
  keyed.inner _ (Assoc.mem_of_get?_eq_some found)

theorem put (keyed : entries.Keyed) (inner : item.Keyed) : (entries.put key item).Keyed := by
  refine ⟨Assoc.nodup_keys_put keyed.keys key item, ?_⟩
  intro e member
  rcases Assoc.mem_put member with rfl | older
  · exact inner
  · exact keyed.inner e older

theorem snoc (keyed : entries.Keyed) (absent : key ∉ entries.map Prod.fst) (inner : item.Keyed) :
    Entries.Keyed (entries ++ [(key, item)]) := by
  rw [← Assoc.put_of_notMem absent]
  exact keyed.put inner

theorem remove (keyed : entries.Keyed) : (entries.remove key).Keyed := by
  have fewer : (entries.remove key).Sublist entries := List.filter_sublist
  exact ⟨keyed.keys.sublist (fewer.map Prod.fst), fun e member => keyed.inner e (fewer.subset member)⟩

end Entries.Keyed

/-- A change that leaves no key twice where there was none. -/
def Keeps (change : Entries → Option Entries) : Prop :=
  ∀ entries entries₁, change entries = some entries₁ → entries.Keyed → entries₁.Keyed

theorem Keeps.updateLast {change : Entries → Option Entries} (keeps : Keeps change)
    {rows rows₁ : List Entries} (updated : updateLast change rows = some rows₁)
    (keyed : ∀ row ∈ rows, row.Keyed) : ∀ row ∈ rows₁, row.Keyed := by
  fun_induction Toml.updateLast change rows generalizing rows₁ with
  | case1 => cases updated
  | case2 row =>
    obtain ⟨row₁, changed, rfl⟩ := Option.map_eq_some_iff.mp updated
    have here := keeps row row₁ changed (keyed row List.mem_cons_self)
    simpa using here
  | case3 row rest more ih =>
    obtain ⟨rest₁, changed, rfl⟩ := Option.map_eq_some_iff.mp updated
    obtain ⟨here, later⟩ := List.forall_mem_cons.mp keyed
    exact List.forall_mem_cons.mpr ⟨here, ih changed later⟩

section Put

variable {change : Entries → Option Entries} {inner inner₁ : Entries} {rows₁ : List Entries}
  (keeps : Keeps change) (keyed : entries.Keyed)
include keeps keyed

theorem Keeps.put_new (made : change [] = some inner) :
    (entries.put key (.table origin inner)).Keyed :=
  keyed.put (Item.keyed_table_iff.mpr (keeps _ _ made .nil))

theorem Keeps.put_table (found : entries.find? key = some (.table origin inner))
    (made : change inner = some inner₁) : (entries.put key (.table origin inner₁)).Keyed :=
  keyed.put (Item.keyed_table_iff.mpr
    (keeps _ _ made (Item.keyed_table_iff.mp (keyed.of_find? found))))

theorem Keeps.put_tables (found : entries.find? key = some (.tables rows))
    (made : Toml.updateLast change rows = some rows₁) : (entries.put key (.tables rows₁)).Keyed :=
  keyed.put (Item.keyed_tables_iff.mpr
    (keeps.updateLast made (Item.keyed_tables_iff.mp (keyed.of_find? found))))

end Put

theorem Keeps.alongHeader {change : Entries → Option Entries} (keeps : Keeps change)
    (path : List String) : Keeps (Entries.alongHeader change path) := by
  induction path with
  | nil => exact keeps
  | cons key path ih =>
    intro entries entries₁ changed keyed
    rw [Entries.alongHeader] at changed
    split at changed
    · obtain ⟨inner, made, rfl⟩ := Option.map_eq_some_iff.mp changed
      exact ih.put_new keyed made
    · cases changed
    · next origin inner found =>
      obtain ⟨inner₁, made, rfl⟩ := Option.map_eq_some_iff.mp changed
      exact ih.put_table keyed found made
    · next rows found =>
      obtain ⟨rows₁, made, rfl⟩ := Option.map_eq_some_iff.mp changed
      exact ih.put_tables keyed found made

theorem keeps_openTable (key : String) : Keeps (Entries.openTable key) := by
  intro entries entries₁ opened keyed
  rw [Entries.openTable] at opened
  split at opened
  · next absent =>
    cases opened
    exact keyed.snoc (Assoc.notMem_keys_of_get?_eq_none absent) (Item.keyed_table_iff.mpr .nil)
  · next inner found =>
    cases opened
    have gone : key ∉ (entries.remove key).map Prod.fst := by
      simp [Entries.remove]
    exact keyed.remove.snoc gone (Item.keyed_table_iff.mpr (Item.keyed_table_iff.mp (keyed.of_find? found)))
  · cases opened

theorem keeps_openRow (key : String) : Keeps (Entries.openRow key) := by
  intro entries entries₁ opened keyed
  rw [Entries.openRow] at opened
  split at opened
  · next absent =>
    cases opened
    apply keyed.snoc (Assoc.notMem_keys_of_get?_eq_none absent)
    exact Item.keyed_tables_iff.mpr (by simpa using Entries.Keyed.nil)
  · next rows found =>
    cases opened
    have before := Item.keyed_tables_iff.mp (keyed.of_find? found)
    apply keyed.put
    apply Item.keyed_tables_iff.mpr
    exact List.forall_mem_append.mpr ⟨before, by simpa using Entries.Keyed.nil⟩
  · cases opened

theorem keeps_addDotted {value : Value} (inner : value.Keyed) (keys : List String) :
    Keeps (Entries.addDotted value keys) := by
  induction keys with
  | nil =>
    intro entries entries₁ added
    cases added
  | cons key keys ih =>
    intro entries entries₁ added keyed
    cases keys with
    | nil =>
      rw [Entries.addDotted, Entries.addNew] at added
      split at added
      · next absent =>
        cases added
        exact keyed.snoc (Assoc.notMem_keys_of_get?_eq_none absent) (.value inner)
      · cases added
    | cons next keys =>
      have more : next :: keys ≠ [] := List.cons_ne_nil _ _
      rw [Entries.addDotted] at added
      · split at added
        · obtain ⟨inner₁, made, rfl⟩ := Option.map_eq_some_iff.mp added
          exact ih.put_new keyed made
        · next inner found =>
          obtain ⟨inner₁, made, rfl⟩ := Option.map_eq_some_iff.mp added
          exact ih.put_table keyed found made
        · next inner found =>
          split at added
          · cases added
          · obtain ⟨inner₁, made, rfl⟩ := Option.map_eq_some_iff.mp added
            exact ih.put_table keyed found made
        · next rows found =>
          split at added
          · cases added
          · obtain ⟨rows₁, made, rfl⟩ := Option.map_eq_some_iff.mp added
            exact ih.put_tables keyed found made
        · cases added
      · exact more

/-! ## Values that are read -/

section Readers

variable {α β : Type} {r : Reader α} {f : α → Reader β} {p : α → Prop} {q : β → Prop}

/-- Everything that a reader gives satisfies `p`. -/
def Gives (r : Reader α) (p : α → Prop) : Prop := ∀ cs a rest, r cs = some (a, rest) → p a

theorem gives_fail : Gives Reader.fail p := nofun

theorem gives_pure {a : α} (holds : p a) : Gives (pure a) p := by
  intro cs b rest given
  cases given
  exact holds

theorem gives_bind_of (first : Gives r p) (later : ∀ a, p a → Gives (f a) q) : Gives (r >>= f) q := by
  intro cs b rest given
  obtain ⟨⟨a, between⟩, here, there⟩ := Option.bind_eq_some_iff.mp given
  exact later a (first cs a between here) between b rest there

theorem gives_bind (later : ∀ a, Gives (f a) q) : Gives (r >>= f) q :=
  gives_bind_of (p := fun _ => True) (fun _ _ _ _ => trivial) fun a _ => later a

theorem gives_orElse {r₁ : Reader α} (first : Gives r p) (second : Gives r₁ p) :
    Gives (r <|> r₁) p := by
  intro cs a rest given
  cases here : r cs with
  | none =>
    have same : (r <|> r₁) cs = r₁ cs := by
      show (r cs).orElse _ = _
      rw [here]
      rfl
    exact second cs a rest (same ▸ given)
  | some found =>
    have same : (r <|> r₁) cs = some found := by
      show (r cs).orElse _ = _
      rw [here]
      rfl
    exact first cs a rest (here.trans (same.symm.trans given))

theorem gives_many (each : Gives r p) : Gives (Reader.many r) fun as => ∀ a ∈ as, p a := by
  have upTo (limit : Nat) : Gives (Reader.manyUpTo r limit) fun as => ∀ a ∈ as, p a := by
    induction limit with
    | zero => exact gives_pure nofun
    | succ limit ih =>
      intro cs as rest given
      rw [Reader.manyUpTo] at given
      cases here : r cs with
      | none =>
        simp only [here] at given
        cases given
        nofun
      | some found =>
        obtain ⟨a, between⟩ := found
        simp only [here] at given
        obtain ⟨⟨later, last⟩, there, same⟩ := Option.map_eq_some_iff.mp given
        cases same
        exact List.forall_mem_cons.mpr ⟨each cs a between here, ih between later last there⟩
  exact fun cs as rest given => upTo cs.length cs as rest given

end Readers

theorem gives_integer : Gives integer Value.Keyed := by
  have marked (mark : String) (base : Nat) : Gives (markedInteger mark base) Value.Keyed := by
    refine gives_bind fun _ => gives_bind fun ds => ?_
    dsimp only
    split
    · exact gives_pure (.integer _)
    · exact gives_fail
  refine gives_bind fun hexadecimal => ?_
  split
  · exact marked "0x" 16
  · refine gives_bind fun octal => ?_
    split
    · exact marked "0o" 8
    · refine gives_bind fun binary => ?_
      split
      · exact marked "0b" 2
      · refine gives_bind fun ds => ?_
        split
        · exact gives_pure (.integer _)
        · exact gives_fail

theorem gives_plainFloat : Gives plainFloat Value.Keyed := by
  refine gives_bind fun whole => gives_bind fun rest => ?_
  split
  · exact gives_fail
  · exact gives_pure (.float _)
  · exact gives_fail

theorem gives_specialFloat : Gives specialFloat Value.Keyed := by
  refine gives_bind fun s => gives_orElse ?_ ?_
  · exact gives_bind fun _ => gives_pure (.float _)
  · exact gives_bind fun _ => gives_pure (.float _)

theorem gives_boolean : Gives boolean Value.Keyed := by
  apply gives_orElse
  · exact gives_bind fun _ => gives_pure (.boolean true)
  · exact gives_bind fun _ => gives_pure (.boolean false)

theorem gives_scalar : Gives scalar Value.Keyed := by
  refine gives_bind fun next => ?_
  split
  · exact gives_bind fun text => gives_pure (.string text)
  · exact gives_bind fun text => gives_pure (.string text)
  · apply gives_orElse
    · exact gives_bind fun text => gives_pure (.datetime text)
    · exact gives_orElse gives_plainFloat
        (gives_orElse gives_specialFloat (gives_orElse gives_integer gives_boolean))

/-- An inline table is put together from its pairs like a table of a document from its lines. -/
theorem keyed_of_pairs {pairs : List (List String × Value)} (inner : ∀ e ∈ pairs, e.2.Keyed)
    (made : pairs.foldlM (fun (entries : Entries) (keys, value) => entries.addDotted value keys) entries
      = some entries₁) (keyed : entries.Keyed) : entries₁.Keyed := by
  induction pairs generalizing entries with
  | nil =>
    cases made
    exact keyed
  | cons e pairs ih =>
    rw [List.foldlM_cons] at made
    obtain ⟨between, here, there⟩ := Option.bind_eq_some_iff.mp made
    obtain ⟨first, later⟩ := List.forall_mem_cons.mp inner
    exact ih later there (keeps_addDotted first e.1 _ _ here keyed)

/-- What is read of a value within some steps of reading. -/
structure GivesKeyed (fuel : Nat) : Prop where
  value : ∀ depth, Gives (valueWithin fuel depth) Value.Keyed
  items : ∀ depth, Gives (itemsWithin fuel depth) fun items => ∀ v ∈ items, v.Keyed
  pairs : ∀ depth, Gives (pairsWithin fuel depth) fun pairs => ∀ e ∈ pairs, e.2.Keyed
  morePairs : ∀ depth, Gives (morePairsWithin fuel depth) fun pairs => ∀ e ∈ pairs, e.2.Keyed

theorem givesKeyed (fuel : Nat) : GivesKeyed fuel := by
  induction fuel with
  | zero =>
    constructor <;> intro depth <;>
      simpa only [valueWithin, itemsWithin, pairsWithin, morePairsWithin] using gives_fail
  | succ fuel ih =>
    constructor
    · intro depth
      rw [valueWithin]
      refine gives_bind fun next => ?_
      split
      · refine gives_bind fun _ => gives_bind_of (ih.items _) fun items inner => ?_
        exact gives_bind fun _ => gives_bind fun _ => gives_pure (.array inner)
      · refine gives_bind fun _ => gives_bind_of (ih.pairs _) fun pairs inner => ?_
        refine gives_bind fun _ => gives_bind fun _ => ?_
        split
        · next entries made =>
          have keyed := keyed_of_pairs inner made .nil
          exact gives_pure (Item.keyed_table_iff.mpr keyed).finish
        · exact gives_fail
      · exact gives_scalar
    · intro depth
      rw [itemsWithin]
      split
      · exact gives_fail
      · refine gives_bind fun _ => gives_bind fun next => ?_
        split
        · exact gives_pure (List.forall_mem_nil _)
        · refine gives_bind_of (ih.value _) fun item keyed => gives_bind fun _ => gives_bind fun next => ?_
          split
          · refine gives_bind fun _ => gives_bind_of (ih.items _) fun items inner => ?_
            exact gives_pure (List.forall_mem_cons.mpr ⟨keyed, inner⟩)
          · exact gives_pure (List.forall_mem_singleton.mpr keyed)
    · intro depth
      rw [pairsWithin]
      split
      · exact gives_fail
      · refine gives_bind fun _ => gives_bind fun next => ?_
        split
        · exact gives_pure (List.forall_mem_nil _)
        · exact ih.morePairs _
    · intro depth
      rw [morePairsWithin]
      refine gives_bind fun keys => gives_bind fun _ => gives_bind fun _ => ?_
      refine gives_bind_of (ih.value _) fun value keyed => gives_bind fun _ => gives_bind fun next => ?_
      split
      · refine gives_bind fun _ => gives_bind_of (ih.morePairs _) fun pairs inner => ?_
        exact gives_pure (List.forall_mem_cons.mpr ⟨keyed, inner⟩)
      · exact gives_pure (List.forall_mem_singleton.mpr keyed)

/-! ## Documents -/

/-- No table in the value of a line has a key twice. -/
def Line.Keyed : Line → Prop
  | .pair _ v => v.Keyed
  | _ => True

theorem gives_pair : Gives pair Line.Keyed := by
  refine gives_bind fun path => gives_bind fun _ => gives_bind fun _ => ?_
  have value : Gives value Value.Keyed := fun cs => (givesKeyed _).value 0 cs
  exact gives_bind_of value fun v keyed => gives_bind fun _ => gives_pure keyed

theorem gives_header : Gives header Line.Keyed :=
  gives_bind fun _ => gives_bind fun _ => gives_bind fun _ => gives_bind fun _ => gives_pure trivial

theorem gives_rowHeader : Gives rowHeader Line.Keyed :=
  gives_bind fun _ => gives_bind fun _ => gives_bind fun _ => gives_bind fun _ => gives_pure trivial

theorem gives_line : Gives line fun l => ∀ said ∈ l, said.Keyed := by
  have told {r : Reader Line} (keyed : Gives r Line.Keyed) :
      Gives (do pure (some (← r))) fun l => ∀ said ∈ l, said.Keyed :=
    gives_bind_of keyed fun said keyed => gives_pure (by simpa using keyed)
  refine gives_bind fun _ => gives_bind fun next => ?_
  split
  · exact gives_bind fun _ => gives_bind fun _ => gives_pure nofun
  · exact gives_bind fun _ => gives_pure nofun
  · exact gives_bind fun _ => gives_pure nofun
  · refine gives_bind fun row => ?_
    split
    · exact told gives_rowHeader
    · exact told gives_header
  · exact told gives_pair
  · exact gives_fail

theorem keyed_of_lines {cs : List Char} {ls : List Line} (read : lines? cs = some ls) :
    ∀ l ∈ ls, l.Keyed := by
  have whole : Gives (do let ls ← Reader.many line; spaces; pure (ls.filterMap id))
      fun ls => ∀ l ∈ ls, l.Keyed := by
    refine gives_bind_of (gives_many gives_line) fun ls keyed => gives_bind fun _ => gives_pure ?_
    intro l member
    obtain ⟨said, among, same⟩ := List.mem_filterMap.mp member
    exact keyed said among l same
  -- A byte order mark may have been taken off the front.
  obtain ⟨cs, read⟩ : ∃ cs, Reader.whole? (do let ls ← Reader.many line; spaces; pure (ls.filterMap id)) cs
      = some ls := ⟨_, read⟩
  rw [Reader.whole?] at read
  split at read
  · next given =>
    cases read
    exact whole _ _ _ given
  · cases read

theorem keyed_add {d d₁ : Draft} {l : Line} (added : d.add l = some d₁) (said : l.Keyed)
    (keyed : d.root.Keyed) : d₁.root.Keyed := by
  cases l with
  | header path =>
    obtain ⟨⟨way, key⟩, -, made⟩ := Option.bind_eq_some_iff.mp added
    obtain ⟨root, opened, same⟩ := Option.bind_eq_some_iff.mp made
    cases same
    exact (keeps_openTable key).alongHeader way _ _ opened keyed
  | rowHeader path =>
    obtain ⟨⟨way, key⟩, -, made⟩ := Option.bind_eq_some_iff.mp added
    obtain ⟨root, opened, same⟩ := Option.bind_eq_some_iff.mp made
    cases same
    exact (keeps_openRow key).alongHeader way _ _ opened keyed
  | pair path v =>
    obtain ⟨root, made, same⟩ := Option.bind_eq_some_iff.mp added
    cases same
    exact (keeps_addDotted said path).alongHeader d.current _ _ made keyed

theorem keyed_of_add {ls : List Line} {d d₁ : Draft} (made : ls.foldlM Draft.add d = some d₁)
    (said : ∀ l ∈ ls, l.Keyed) (keyed : d.root.Keyed) : d₁.root.Keyed := by
  induction ls generalizing d with
  | nil =>
    cases made
    exact keyed
  | cons l ls ih =>
    rw [List.foldlM_cons] at made
    obtain ⟨between, here, there⟩ := Option.bind_eq_some_iff.mp made
    obtain ⟨first, later⟩ := List.forall_mem_cons.mp said
    exact ih there later (keyed_add here first keyed)

/-- No table of a document has a key twice. -/
theorem keyed_of_read {text : String} {entries : List (String × Value)}
    (read : read? text = some entries) : (Value.table entries).Keyed := by
  obtain ⟨ls, lined, made⟩ := Option.bind_eq_some_iff.mp read
  obtain ⟨draft, drafted, same⟩ := Option.bind_eq_some_iff.mp made
  cases same
  have root := keyed_of_add drafted (keyed_of_lines lined) .nil
  have whole : (Item.table .explicit draft.root).Keyed := Item.keyed_table_iff.mpr root
  exact whole.finish

end ActionBridge.Toml
