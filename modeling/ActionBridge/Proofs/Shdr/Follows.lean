import ActionBridge.Proofs.Shdr.Runs
import ActionBridge.Proofs.Shdr.View

/-!
# Clients follow the adapter

What a connected client has read agrees with every slot that has no change to be sent
(`Follows`), and every event keeps it so. A client that joins late learns everything from the
record at its start.
-/
namespace ActionBridge.Shdr

/-! ## Learning -/

theorem View.learn_of_notMem {r : Record} {item : String} (absent : item ∉ r.map Prod.fst) (v : View) :
    v.learn (.record r) item = v item := by
  rw [View.learn]
  induction r generalizing v with
  | nil => rfl
  | cons field r ih =>
    rw [List.map_cons, List.mem_cons, not_or] at absent
    rw [List.foldl_cons, ih absent.2, View.note, Function.update_of_ne absent.1]

theorem View.learn_of_mem {r : Record} (nodup : (r.map Prod.fst).Nodup) {field : String × String}
    (member : field ∈ r) (v : View) : v.learn (.record r) field.1 = some (writtenValue field.2) := by
  induction r generalizing v with
  | nil => exact absurd member List.not_mem_nil
  | cons first r ih =>
    rw [List.map_cons, List.nodup_cons] at nodup
    rcases List.mem_cons.mp member with rfl | later
    · exact (learn_of_notMem nodup.1 _).trans (Function.update_self ..)
    · exact ih nodup.2 later _

namespace Adapter

variable {a b : Adapter} {items : List String} {client : Nat} {e : Event} {out : List Delivery}
variable {v : View}

/-! ## What clients receive -/

theorem inbox_append (client : Nat) (first later : List Delivery) :
    inbox client (first ++ later) = inbox client first ++ inbox client later :=
  List.filterMap_append

theorem mem_inbox {m : Message} {sent : List Delivery} :
    m ∈ inbox client sent ↔ ⟨client, m⟩ ∈ sent := by
  rw [inbox, List.mem_filterMap]
  constructor
  · rintro ⟨⟨other, _⟩, among, told⟩
    split at told
    · rename_i same
      obtain rfl := Option.some.inj told
      exact same ▸ among
    · exact nomatch told
  · exact fun among => ⟨_, among, if_pos rfl⟩

theorem inbox_singleton (client other : Nat) (m : Message) :
    inbox client [⟨other, m⟩] = if other = client then [m] else [] := by
  by_cases same : other = client <;> simp [inbox, same]

/-- A message to all clients reaches each of them once. -/
theorem inbox_broadcast {clients : List Client} (nodup : (clients.map Client.connection).Nodup)
    (client : Nat) (m : Message) :
    inbox client (clients.map fun c => ⟨c.connection, m⟩)
      = if client ∈ clients.map Client.connection then [m] else [] := by
  induction clients with
  | nil => rfl
  | cons first clients ih =>
    rw [List.map_cons, List.nodup_cons] at nodup
    have rest := ih nodup.2
    rw [inbox] at rest ⊢
    by_cases same : first.connection = client
    · subst same
      simp [rest, nodup.1]
    · simp [rest, same, Ne.symm same]

theorem exists_of_mem_changes {field : String × String} (member : field ∈ a.changes) :
    ∃ e ∈ a.items, e.2.changed = true ∧ field = (e.1, e.2.shown) := by
  obtain ⟨⟨item, slot⟩, inside, told⟩ := List.mem_filterMap.mp member
  cases changed : slot.changed with
  | true => exact ⟨(item, slot), inside, changed, by simpa [changed, eq_comm] using told⟩
  | false => simp [changed] at told

theorem mem_changes {e : String × Slot} (member : e ∈ a.items) (changed : e.2.changed = true) :
    (e.1, e.2.shown) ∈ a.changes :=
  List.mem_filterMap.mpr ⟨e, member, if_pos changed⟩

/-- The changes reach whoever is connected. -/
theorem inbox_sendChanges (wired : a.Wired) (client : Nat) :
    inbox client a.sendChanges.2
      = if client ∈ a.streams ∧ a.changes ≠ [] then [.record a.changes] else [] := by
  rw [sendChanges]
  by_cases none : a.changes = []
  · simp [none, inbox]
  · rw [if_neg (none ∘ List.isEmpty_iff.mp), inbox_broadcast wired.nodup_streams]
    simp [none, streams]

/-- What the adapter sends when it accepts a connection goes to the newcomer alone. -/
theorem inbox_connect (a : Adapter) (peer : String) (client : Nat) :
    inbox client (a.connect peer).2
      = if client = a.readers.length ∧ a.items ≠ [] then [.record a.fullRecord] else [] := by
  unfold connect
  dsimp only
  by_cases none : a.items = []
  · simp [none, inbox]
  · rw [if_neg (none ∘ List.isEmpty_iff.mp), inbox_singleton]
    simp [none, eq_comm]

/-! ## The view of a client -/

/-- What a client has read agrees with the slots that have no change to be sent. -/
structure Follows (a : Adapter) (client : Nat) (v : View) : Prop where
  known : ∀ item ∉ a.names, v item = none
  current : client ∈ a.streams → ∀ e ∈ a.items, e.2.changed = false →
    v e.1 = some (writtenValue e.2.shown)

theorem Follows.mono (follows : Follows a client v) (same : b.items = a.items)
    (streams : client ∈ b.streams → client ∈ a.streams) : Follows b client v := by
  refine ⟨?_, fun here => ?_⟩
  · rw [names, same]
    exact follows.known
  · rw [same]
    exact follows.current (streams here)

/-- A call changes no value without leaving a change to be sent. -/
theorem Follows.taken (follows : Follows a client v) (nodup : a.names.Nodup) (call : SinkCall) :
    Follows (a.taken call) client v := by
  refine ⟨(names_taken a call).symm ▸ follows.known, ?_⟩
  rintro here ⟨item, slot⟩ member unchanged
  rw [streams_taken] at here
  rcases mem_items_taken nodup member with ⟨older, -⟩ | ⟨value, old, -, older, same⟩
  · exact follows.current here _ older unchanged
  · rw [Slot.assign] at same
    split at same
    · obtain rfl := same
      exact follows.current here _ older unchanged
    · exact absurd unchanged (by simp [same])

/-- A connected client learns the changes, another one nothing. -/
theorem learn_inbox_sendChanges (wired : a.Wired) (client : Nat) (v : View) :
    (inbox client a.sendChanges.2).foldl View.learn v
      = if client ∈ a.streams then v.learn (.record a.changes) else v := by
  rw [inbox_sendChanges wired]
  by_cases here : client ∈ a.streams
  · by_cases none : a.changes = []
    · simp [none, View.learn]
    · rw [if_pos ⟨here, none⟩, if_pos here]
      rfl
  · rw [if_neg fun both => here both.1, if_neg here]
    rfl

theorem learn_changes_of_changed (nodup : a.names.Nodup) {entry : String × Slot}
    (member : entry ∈ a.items) (changed : entry.2.changed = true) (v : View) :
    v.learn (.record a.changes) entry.1 = some (writtenValue entry.2.shown) := by
  have keys : (a.changes.map Prod.fst).Nodup := by
    rw [keys_changes nodup]
    exact nodup.sublist (renewed_sublist a)
  exact View.learn_of_mem keys (mem_changes member changed) v

theorem learn_changes_of_unchanged (nodup : a.names.Nodup) {entry : String × Slot}
    (member : entry ∈ a.items) (unchanged : entry.2.changed = false) (v : View) :
    v.learn (.record a.changes) entry.1 = v entry.1 := by
  refine View.learn_of_notMem (fun listed => ?_) v
  obtain ⟨field, inside, same⟩ := List.mem_map.mp listed
  obtain ⟨other, among, changed, rfl⟩ := exists_of_mem_changes inside
  obtain rfl := List.inj_on_of_nodup_map nodup among member same
  rw [unchanged] at changed
  contradiction

theorem learn_changes_of_unknown (nodup : a.names.Nodup) {item : String} (unknown : item ∉ a.names)
    (v : View) : v.learn (.record a.changes) item = v item := by
  refine View.learn_of_notMem (fun listed => ?_) v
  rw [keys_changes nodup] at listed
  exact unknown ((renewed_sublist a).subset listed)

/-- Sending the changes makes the view agree with every slot. -/
theorem Follows.sendChanges (follows : Follows a client v) (nodup : a.names.Nodup)
    (wired : a.Wired) :
    Follows a.sendChanges.1 client ((inbox client a.sendChanges.2).foldl View.learn v) := by
  rw [learn_inbox_sendChanges wired]
  constructor
  · intro item absent
    have unknown : item ∉ a.names := names_settled a ▸ absent
    split
    · rw [learn_changes_of_unknown nodup unknown]
      exact follows.known item unknown
    · exact follows.known item unknown
  · intro here e member _
    have connected : client ∈ a.streams := here
    obtain ⟨old, older, rfl⟩ := List.mem_map.mp member
    rw [if_pos connected]
    cases changed : old.2.changed with
    | true => exact learn_changes_of_changed nodup older changed v
    | false =>
      rw [learn_changes_of_unchanged nodup older changed]
      exact follows.current connected old older changed

/-- The record at the start tells a client everything. -/
theorem Follows.joins (follows : Follows a client v) (nodup : a.names.Nodup) (peer : String) :
    Follows (a.connect peer).1 client ((inbox client (a.connect peer).2).foldl View.learn v) := by
  have items : (a.connect peer).1.items = a.items := rfl
  have keys : a.fullRecord.map Prod.fst = a.names := List.map_map
  rw [inbox_connect]
  split
  · refine ⟨fun item absent => ?_, fun _ e member _ => ?_⟩
    · have unknown : item ∉ a.fullRecord.map Prod.fst := keys ▸ absent
      exact (View.learn_of_notMem unknown v).trans (follows.known item absent)
    · exact View.learn_of_mem (keys ▸ nodup) (List.mem_map.mpr ⟨e, member, rfl⟩) v
  · rename_i other
    by_cases none : a.items = []
    · refine ⟨follows.known, fun _ e member => ?_⟩
      exact absurd (none ▸ items ▸ member) List.not_mem_nil
    · refine follows.mono items fun here => ?_
      rw [streams_connect] at here
      exact (List.mem_append.mp here).resolve_right fun last =>
        other ⟨List.mem_singleton.mp last, none⟩

theorem Follows.takes (follows : Follows a client v) (sound : Sound items a)
    (takes : Takes a e (b, out)) : Follows b client ((inbox client out).foldl View.learn v) := by
  cases takes with
  | @waits call early => exact follows.taken sound.nodup call
  | @sends call due =>
    exact (follows.taken sound.nodup call).sendChanges ((names_taken a call).symm ▸ sound.nodup)
      (sound.wired.taken call)
  | @joins peer => exact follows.joins sound.nodup peer
  | @answers n id line text other reads decoded ping found =>
    rw [inbox_singleton]
    split <;> exact follows
  | ignores | gone => exact follows
  | breaks reads | leaves reads =>
    exact follows.mono rfl fun here => ((sound.wired.mem_streams_leave reads).mp here).1

theorem Follows.after (follows : Follows a client v) (sound : Sound items a) (es : List Event) :
    Follows (a.after es) client ((inbox client (a.sent es)).foldl View.learn v) := by
  induction es generalizing a v with
  | nil => exact follows
  | cons e es ih =>
    have takes : Takes a e ((a.step e).1, (a.step e).2) := step_takes a e
    rw [sent_cons, inbox_append, List.foldl_append]
    exact ih (follows.takes sound takes) (sound.takes takes)

end Adapter

end ActionBridge.Shdr
