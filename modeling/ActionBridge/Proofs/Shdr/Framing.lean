import ActionBridge.Proofs.Shdr.Presence
import ActionBridge.Proofs.Shdr.Renewal
import ActionBridge.Proofs.Shdr.Values
import ActionBridge.Proofs.Text.Ascii
import Mathlib.Algebra.GroupWithZero.Nat

/-!
# The lines of a transaction

A record is cut at its bars into names and values in turn, whatever the values are, since bars in
values are written as slashes. Line feeds in values are written as they are: a record takes one
line, and another one for each line feed in its values (`count_text_record`). So a transaction is
one line exactly if no value that it changes has a line feed (`transaction_oneLine_iff`).
-/
namespace ActionBridge.Shdr

/-! ## Lines of a record -/

/-- Bytes with one line feed, which is the last of them. -/
structure OneLine (bytes : List UInt8) : Prop where
  single : bytes.count 10 = 1
  last : bytes.getLast? = some 10

instance (bytes : List UInt8) : Decidable (OneLine bytes) :=
  decidable_of_iff (bytes.count 10 = 1 ∧ bytes.getLast? = some 10)
    ⟨fun both => ⟨both.1, both.2⟩, fun line => ⟨line.single, line.last⟩⟩

/-- Writing changes no line feeds of a value. -/
theorem count_break_writtenValue (value : String) :
    (writtenValue value).toList.count '\n' = value.toList.count '\n' := by
  rw [writtenValue, String.toList_ofList]
  induction value.toList with
  | nil => rfl
  | cons c cs ih =>
    rw [List.map_cons, List.count_cons, List.count_cons, ih]
    by_cases bar : c = '|'
    · simp [bar]
    · simp [bar]

theorem count_break_recordPieces {r : Record} (plain : ∀ field ∈ r, Plain field.1) :
    ((recordPieces r).flatMap ('|' :: ·)).count '\n'
      = (r.map fun field => field.2.toList.count '\n').sum := by
  induction r with
  | nil => rfl
  | cons field r ih =>
    have here : Plain field.1 := plain field List.mem_cons_self
    have none : field.1.toList.count '\n' = 0 := List.count_eq_zero_of_not_mem here.2
    have later := ih fun f member => plain f (List.mem_cons_of_mem _ member)
    have split : recordPieces (field :: r)
        = field.1.toList :: (writtenValue field.2).toList :: recordPieces r := rfl
    rw [split, List.flatMap_cons, List.flatMap_cons, List.count_append, List.count_append, later]
    simp [none, count_break_writtenValue]

/-- A record has a line feed at its end, and those of its values. -/
theorem count_text_record {r : Record} (plain : ∀ field ∈ r, Plain field.1) {stamp : String}
    (clean : Plain stamp) :
    (Utf8.bytesOf ((Message.record r).text stamp)).count 10
      = (r.map fun field => field.2.toList.count '\n').sum + 1 := by
  have none : stamp.toList.count '\n' = 0 := List.count_eq_zero_of_not_mem clean.2
  have chars := Utf8.count_bytesOf (b := 10) (by decide) ((Message.record r).text stamp)
  have feed : Char.ofNat (10 : UInt8).toNat = '\n' := by decide
  rw [chars, feed, toList_text_record, recordLine, List.count_append, List.count_append,
    count_break_recordPieces plain, none]
  simp

theorem getLast?_text_record (stamp : String) (r : Record) :
    (Utf8.bytesOf ((Message.record r).text stamp)).getLast? = some 10 := by
  rw [Message.text, Utf8.bytesOf_append]
  exact List.getLast?_append_of_ne_nil _ (by decide)

/-- A record is one line exactly if all its values stand on one. -/
theorem oneLine_record_iff {r : Record} (plain : ∀ field ∈ r, Plain field.1) {stamp : String}
    (clean : Plain stamp) :
    OneLine (Utf8.bytesOf ((Message.record r).text stamp)) ↔ ∀ field ∈ r, Unbroken field.2 := by
  have feeds := count_text_record plain clean
  constructor
  · intro line field member
    have zero : (r.map fun field => field.2.toList.count '\n').sum = 0 := by
      have single := line.single
      omega
    have here := List.sum_eq_zero_iff_forall_eq_nat.mp zero _ (List.mem_map.mpr ⟨field, member, rfl⟩)
    exact List.count_eq_zero.mp here
  · intro unbroken
    have zero : (r.map fun field => field.2.toList.count '\n').sum = 0 := by
      refine List.sum_eq_zero_iff_forall_eq_nat.mpr fun n listed => ?_
      obtain ⟨field, member, rfl⟩ := List.mem_map.mp listed
      exact List.count_eq_zero.mpr (unbroken field member)
    refine ⟨?_, getLast?_text_record stamp r⟩
    rw [feeds, zero]

namespace Adapter

variable {a : Adapter} {items : List String} {es inside : List Event} {e : Event} {item : String}

theorem lastSet?_of_renewed (renewed : a.Renewed es item) : ∃ value, lastSet? item es = some value := by
  obtain ⟨before, value, later, rfl, -⟩ := renewed
  exact Option.isSome_iff_exists.mp
    (isSome_lastSet? (List.mem_append_right _ List.mem_cons_self))

/-! ## Open transactions -/

/-- A transaction goes on gathering until it is completed. -/
theorem gathering_of_open (gathers : a.gathering = true) (going : e ≠ .told .complete) :
    (a.step e).1.gathering = true := by
  rw [gathering_step]
  cases e with
  | told call =>
    cases call with
    | begin => rfl
    | set target value => exact gathers
    | complete => exact absurd rfl going
  | connected | received | disconnected => exact gathers

theorem not_due_of_gathering (gathers : a.gathering = true) (going : e ≠ .told .complete) :
    a.due e = false := by
  cases e with
  | told call =>
    cases call with
    | begin => rfl
    | complete => exact absurd rfl going
    | set target value => simp [due, flushes, gathers]
  | connected | received | disconnected => rfl

/-- Within a transaction nothing is sent of what changes. -/
theorem quiet_of_open (a : Adapter) (going : .told .complete ∉ inside) :
    a.Quiet (.told .begin :: inside) ∧ (a.after (.told .begin :: inside)).gathering = true := by
  induction inside using List.reverseRecOn with
  | nil => exact ⟨quiet_snoc.mpr ⟨quiet_nil a, rfl⟩, rfl⟩
  | append_singleton inside e ih =>
    rw [List.mem_append, List.mem_singleton, not_or] at going
    obtain ⟨quiet, gathers⟩ := ih going.1
    have next : e ≠ .told .complete := Ne.symm going.2
    refine ⟨quiet_snoc.mpr ⟨quiet, not_due_of_gathering gathers next⟩, ?_⟩
    rw [← List.cons_append, after_append, after_one]
    exact gathering_of_open gathers next

/-! ## Transactions -/

/-- The end of a transaction sends the record `r` of what it changed to every client, or nothing
    if that is nothing. The record lists the values that were set last. -/
structure Concludes (before : Adapter) (items : List String) (inside : List Event) (r : Record) :
    Prop where
  order : (r.map Prod.fst).Sublist items.eraseDups
  changed : ∀ item, item ∈ r.map Prod.fst ↔
    item ∈ items ∧ before.Renewed (.told .begin :: inside) item
  values : ∀ field ∈ r, lastSet? field.1 inside = some field.2
  sends : ∀ client,
    inbox client ((before.after (.told .begin :: inside)).step (.told .complete)).2
      = if client ∈ (before.after (.told .begin :: inside)).streams ∧ r ≠ [] then [.record r] else []

theorem exists_concludes {before : Adapter} (sound : Sound items.eraseDups before)
    (idle : before.gathering = false) (going : .told .complete ∉ inside) :
    ∃ r, Concludes before items inside r := by
  obtain ⟨quiet, -⟩ := quiet_of_open before going
  have reached := sound.after (.told .begin :: inside)
  generalize gathered : before.after (.told .begin :: inside) = a at reached
  obtain ⟨fresh, sublist, listed, sends⟩ :=
    inbox_of_due sound (sound.idle idle) quiet (e := .told .complete) rfl
  rw [gathered] at sends
  -- The end of a transaction sets no value, so the last ones count that were set inside.
  have changed (item : String) : item ∈ fresh ↔
      item ∈ items ∧ before.Renewed (.told .begin :: inside) item := by
    rw [listed, renewed_snoc, List.mem_eraseDups]
    simp
  have value (item : String) (known : item ∈ fresh) :
      lastSet? item inside = some (((a.step (.told .complete)).1.value? item).getD unavailable) := by
    obtain ⟨registered, renewed⟩ := (changed item).mp known
    obtain ⟨value, last⟩ := lastSet?_of_renewed renewed
    have member : item ∈ items.eraseDups := List.mem_eraseDups.mpr registered
    have ended : (a.step (.told .complete)).1.value? item = a.value? item :=
      value?_step (reached.names ▸ member) _
    have holds : a.value? item = some value := by
      rw [← gathered, value?_after sound member, last]
      rfl
    rw [lastSet?_begin] at last
    rw [last, ended, holds]
    rfl
  refine ⟨fresh.map fun item => (item, ((a.step (.told .complete)).1.value? item).getD unavailable),
    ?_, ?_, ?_, ?_⟩
  · rw [List.map_map]
    exact (List.map_id fresh).symm ▸ sublist
  · intro item
    rw [List.map_map, ← changed item]
    simp
  · intro field member
    obtain ⟨item, known, rfl⟩ := List.mem_map.mp member
    exact value item known
  · intro client
    rw [gathered, sends]
    simp only [ne_eq, List.map_eq_nil_iff]

/-- A transaction of one update leaves the other data items as they are, and lists none of them. -/
theorem transaction_alone {before : Adapter} {other value : String}
    (sound : Sound items.eraseDups before) (idle : before.gathering = false) (differs : item ≠ other) :
    (before.after ((transaction item value).map .told)).value? other = before.value? other ∧
      ∀ d ∈ before.sent ((transaction item value).map .told),
        ∃ r, d.message = .record r ∧ other ∉ r.map Prod.fst := by
  constructor
  · rw [value?_after_eq sound, lastSet?_transaction, if_neg differs]
    split <;> rfl
  · intro d among
    have going : .told .complete ∉ [Event.told (.set item value)] := by simp
    obtain ⟨r, concludes⟩ := exists_concludes sound idle going
    have sends : before.sent ((transaction item value).map .told)
        = ((before.after (.told .begin :: [.told (.set item value)])).step (.told .complete)).2 := by
      have waits : ((before.step (.told .begin)).1.step (.told (.set item value))).2 = [] := by
        rw [step, call_eq, if_neg (by simp [flushes, step, call])]
      rw [transaction, List.map_cons, List.map_cons, List.map_cons, sent_cons, sent_cons, waits,
        sent_cons]
      exact List.append_nil _
    rw [sends] at among
    have only := concludes.sends d.connection
    have here : d.message ∈ inbox d.connection
        ((before.after (.told .begin :: [.told (.set item value)])).step (.told .complete)).2 :=
      mem_inbox.mpr among
    rw [only] at here
    split at here
    · refine ⟨r, List.mem_singleton.mp here, fun listed => ?_⟩
      obtain ⟨-, first, set, later, split, -⟩ := (concludes.changed other).mp listed
      have member : Event.told (.set other set) ∈ [Event.told .begin, .told (.set item value)] :=
        split ▸ List.mem_append_right _ List.mem_cons_self
      have same : other = item ∧ set = value := by simpa using member
      exact differs same.1.symm
    · exact absurd here List.not_mem_nil

/-- A transaction reaches every client that is there at its end as one record, which is cut at its bars
    into names and values whatever these are. The record is one line exactly if no value that it changes
    has a line feed. -/
theorem transaction_oneLine_iff (items : List String) (plain : ∀ item ∈ items, Plain item)
    (heartbeat : Nat) (es inside : List Event)
    (idle : ((start items heartbeat).after es).gathering = false)
    (going : .told .complete ∉ inside) :
    ∃ r, Concludes ((start items heartbeat).after es) items inside r ∧
      (∀ client, client ∈ (((start items heartbeat).after es).after (.told .begin :: inside)).streams ↔
        present client (es ++ .told .begin :: inside) = true) ∧
      ∀ stamp, Plain stamp →
        (∃ line, ((Message.record r).text stamp).toList = line ++ ['\n'] ∧
          Text.splitAll '|' line = stamp.toList :: recordPieces r) ∧
        (OneLine (Utf8.bytesOf ((Message.record r).text stamp)) ↔
          ∀ item ∈ r.map Prod.fst, ∀ value, lastSet? item inside = some value → Unbroken value) := by
  have sound := (sound_start items heartbeat).after es
  obtain ⟨r, concludes⟩ := exists_concludes sound idle going
  have names : ∀ field ∈ r, Plain field.1 := by
    intro field member
    have listed := (concludes.changed field.1).mp (List.mem_map.mpr ⟨field, member, rfl⟩)
    exact plain field.1 listed.1
  refine ⟨r, concludes, fun client => ?_, fun stamp clean => ⟨?_, ?_⟩⟩
  · rw [← after_append]
    exact mem_streams_after_start items heartbeat client _
  · exact ⟨recordLine stamp r, toList_text_record stamp r,
      splitAll_recordLine (fun field member => (names field member).1) clean.1⟩
  · rw [oneLine_record_iff names clean]
    constructor
    · intro unbroken item listed value last
      obtain ⟨field, member, rfl⟩ := List.mem_map.mp listed
      obtain rfl : field.2 = value := Option.some.inj ((concludes.values field member).symm.trans last)
      exact unbroken field member
    · intro unbroken field member
      exact unbroken field.1 (List.mem_map.mpr ⟨field, member, rfl⟩) field.2 (concludes.values field member)

/-- A value with a bar leaves the record of its transaction on one line, which reaches the client. -/
theorem transaction_oneLine_of_bar :
    (∀ item ∈ ["load", "mode"], Plain item) ∧
      ((start ["load", "mode"] 10000).after [.connected "127.0.0.1:40000"]).gathering = false ∧
      .told .complete ∉ [Event.told (.set "load" "a|b")] ∧
      inbox 0 ((((start ["load", "mode"] 10000).after [.connected "127.0.0.1:40000"]).after
        [.told .begin, .told (.set "load" "a|b")]).step (.told .complete)).2
          = [.record [("load", "a|b")]] ∧
      OneLine (Utf8.bytesOf ((Message.record [("load", "a|b")]).text "t0")) := by
  have plain : ∀ item ∈ ["load", "mode"], Plain item := by decide
  have idle : ((start ["load", "mode"] 10000).after [.connected "127.0.0.1:40000"]).gathering = false := by
    decide
  have going : .told .complete ∉ [Event.told (.set "load" "a|b")] := by decide
  have sent : inbox 0 ((((start ["load", "mode"] 10000).after [.connected "127.0.0.1:40000"]).after
      [.told .begin, .told (.set "load" "a|b")]).step (.told .complete)).2
        = [.record [("load", "a|b")]] := by decide
  refine ⟨plain, idle, going, sent, ?_⟩
  obtain ⟨r, concludes, counted, lines⟩ := transaction_oneLine_iff ["load", "mode"] plain 10000
    [.connected "127.0.0.1:40000"] [.told (.set "load" "a|b")] idle going
  have only := concludes.sends 0
  rw [sent] at only
  split at only
  · obtain rfl : [("load", "a|b")] = r := by simpa using only
    exact (lines "t0" (by decide)).2.mpr (by decide)
  · cases only

/-- A value with a line feed makes two lines of a record, and the second one is none that the adapter
    sends. -/
theorem not_oneLine_of_break :
    inbox 0 ((start ["load"] 10000).sent [.connected "127.0.0.1:40000", .told .begin,
        .told (.set "load" "LOADED\nx|mode|AUTO"), .told .complete])
      = [.record [("load", "UNAVAILABLE")], .record [("load", "LOADED\nx|mode|AUTO")]] ∧
      (Message.record [("load", "LOADED\nx|mode|AUTO")]).text "t0"
        = "t0|load|LOADED\nx/mode/AUTO\n" ∧
      ¬ OneLine (Utf8.bytesOf ((Message.record [("load", "LOADED\nx|mode|AUTO")]).text "t0")) := by
  refine ⟨by decide, by decide, ?_⟩
  decide

end Adapter
end ActionBridge.Shdr
