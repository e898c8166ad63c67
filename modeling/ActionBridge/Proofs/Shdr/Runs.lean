import ActionBridge.Proofs.Assoc
import ActionBridge.Proofs.Shdr.Connections

/-!
# Runs of the adapter

A call first changes the adapter (`taken`) and then, if it is due (`flushes`), sends what the
clients have yet to hear of. With this and what clients do, `Takes` says all that one event can
do. Over every run the data items stay the same, the clients are told apart by their numbers, and
while no transaction gathers there is nothing left to send (`Sound`).
-/
namespace ActionBridge.Shdr.Adapter

/-! ## Events -/

/-- The names of the data items. -/
def names (a : Adapter) : List String := a.items.map Prod.fst

/-- The adapter with another value of a data item, before anything is sent. -/
def assigned (a : Adapter) (item value : String) : Adapter :=
  match Assoc.get? item a.items with
  | none => a
  | some slot => { a with items := Assoc.put item (slot.assign value) a.items }

/-- What a call changes before anything is sent. -/
def taken (a : Adapter) : SinkCall → Adapter
  | .begin => { a with gathering := true }
  | .set item value => a.assigned item value
  | .complete => { a with gathering := false }

/-- Whether a call has the changes sent: the end of a transaction, or a known data item outside
    of transactions. -/
def flushes (a : Adapter) : SinkCall → Bool
  | .begin => false
  | .set item _ => !a.gathering && (Assoc.get? item a.items).isSome
  | .complete => true

theorem call_eq (a : Adapter) (call : SinkCall) :
    a.call call = if a.flushes call then (a.taken call).sendChanges else (a.taken call, []) := by
  cases call with
  | begin => rfl
  | complete => rfl
  | set item value =>
    rw [Adapter.call, set, flushes, taken, assigned]
    cases Assoc.get? item a.items with
    | none => simp
    | some slot => cases a.gathering <;> simp

/-- What an event does to an adapter, and what is sent. -/
inductive Takes (a : Adapter) : Event → Adapter × List Delivery → Prop
  | waits {call : SinkCall} (early : a.flushes call = false) :
      Takes a (.told call) (a.taken call, [])
  | sends {call : SinkCall} (due : a.flushes call = true) :
      Takes a (.told call) (a.taken call).sendChanges
  | joins {peer : String} : Takes a (.connected peer) (a.connect peer)
  | answers {n id : Nat} {line : List UInt8} {text : String} {client : Client}
      (reads : a.reader? n = some id) (decoded : Utf8.decode line = .ok text) (ping : isPing text = true)
      (found : a.clients.find? (·.id == id) = some client) :
      Takes a (.received n line) (a, [⟨client.connection, .pong a.heartbeat⟩])
  | ignores {n : Nat} {line : List UInt8}
      (idle : ∀ id, a.reader? n = some id → ∃ text, Utf8.decode line = .ok text ∧ isPing text = false) :
      Takes a (.received n line) (a, [])
  | breaks {n id : Nat} {line : List UInt8} (reads : a.reader? n = some id)
      (ends : (∃ fault, Utf8.decode line = .error fault) ∨ a.clients.find? (·.id == id) = none) :
      Takes a (.received n line) (a.leave n id, [])
  | leaves {n id : Nat} (reads : a.reader? n = some id) :
      Takes a (.disconnected n) (a.leave n id, [])
  | gone {n : Nat} (unread : a.reader? n = none) : Takes a (.disconnected n) (a, [])

theorem receive_takes (a : Adapter) (n : Nat) (line : List UInt8) :
    Takes a (.received n line) (a.receive n line) := by
  rw [receive]
  cases reads : a.reader? n with
  | none => exact .ignores fun id known => nomatch reads.symm.trans known
  | some id =>
    simp only [readLine]
    cases decoded : Utf8.decode line with
    | error fault => exact .breaks reads (.inl ⟨fault, decoded⟩)
    | ok text =>
      by_cases ping : isPing text = true
      · simp only [ping, if_true]
        cases found : a.clients.find? (·.id == id) with
        | none => exact .breaks reads (.inr found)
        | some client => exact .answers reads decoded ping found
      · simp only [ping, Bool.false_eq_true, if_false]
        exact .ignores fun _ _ => ⟨text, decoded, by simpa using ping⟩

theorem step_takes (a : Adapter) (e : Event) : Takes a e (a.step e) := by
  cases e with
  | told call =>
    rw [step, call_eq]
    by_cases due : a.flushes call = true
    · rw [if_pos due]
      exact .sends due
    · rw [if_neg due]
      exact .waits (by simpa using due)
  | connected peer => exact .joins
  | received n line => exact receive_takes a n line
  | disconnected n =>
    rw [step, disconnect]
    cases reads : a.reader? n with
    | none => exact .gone reads
    | some id => exact .leaves reads

/-! ## Slots -/

@[simp] theorem names_settled (a : Adapter) : a.settled.names = a.names := by
  rw [names, settled, List.map_map]
  rfl

theorem names_assigned (a : Adapter) (item value : String) : (a.assigned item value).names = a.names := by
  rw [assigned]
  cases found : Assoc.get? item a.items with
  | none => rfl
  | some slot => exact Assoc.keys_put_of_mem (Assoc.mem_keys_of_get?_eq_some found) _

@[simp] theorem names_taken (a : Adapter) (call : SinkCall) : (a.taken call).names = a.names := by
  cases call with
  | begin => rfl
  | complete => rfl
  | set item value => exact names_assigned a item value

/-- A call on the sink leaves alone all but the data items and the gathering. -/
theorem taken_eq (a : Adapter) (call : SinkCall) :
    a.taken call = { a with items := (a.taken call).items, gathering := (a.taken call).gathering } := by
  cases call with
  | begin => rfl
  | complete => rfl
  | set item value =>
    rw [taken, assigned]
    split <;> rfl

@[simp] theorem clients_taken (a : Adapter) (call : SinkCall) : (a.taken call).clients = a.clients := by
  rw [taken_eq]

@[simp] theorem heartbeat_taken (a : Adapter) (call : SinkCall) :
    (a.taken call).heartbeat = a.heartbeat := by
  rw [taken_eq]

@[simp] theorem readers_taken (a : Adapter) (call : SinkCall) : (a.taken call).readers = a.readers := by
  rw [taken_eq]

@[simp] theorem streams_taken (a : Adapter) (call : SinkCall) : (a.taken call).streams = a.streams := by
  rw [streams, clients_taken, streams]

theorem Wired.taken {a : Adapter} (wired : a.Wired) (call : SinkCall) : (a.taken call).Wired := by
  refine wired.mono (clients_taken a call) (readers_taken a call) ?_
  rw [taken_eq]

/-- No slot holds a value that the clients have yet to hear of. -/
def Settled (a : Adapter) : Prop := ∀ e ∈ a.items, e.2.changed = false

theorem settled_settled (a : Adapter) : a.settled.Settled := by
  intro e member
  obtain ⟨old, -, rfl⟩ := List.mem_map.mp member
  rfl

theorem value?_of_mem {a : Adapter} (nodup : a.names.Nodup) {e : String × Slot} (member : e ∈ a.items) :
    a.value? e.1 = e.2.value := by
  rw [value?, (Assoc.get?_eq_some_iff nodup).mpr member]
  rfl

theorem value?_settled (a : Adapter) (item : String) : a.settled.value? item = a.value? item := by
  have found (m : List (String × Slot)) :
      (Assoc.get? item (m.map fun e => (e.1, { e.2 with changed := false }))).bind (·.value)
        = (Assoc.get? item m).bind (·.value) := by
    induction m with
    | nil => rfl
    | cons e m ih =>
      by_cases same : e.1 = item
      · simp [Assoc.get?, same]
      · simpa [Assoc.get?, same] using ih
  exact found a.items

/-- A slot after a call was one before it, or holds the value that the call set. -/
theorem mem_items_taken {a : Adapter} (nodup : a.names.Nodup) {call : SinkCall} {item : String}
    {slot : Slot} (member : (item, slot) ∈ (a.taken call).items) :
    (item, slot) ∈ a.items ∧ (∀ value, call ≠ .set item value) ∨
      ∃ value old, call = .set item value ∧ (item, old) ∈ a.items ∧ slot = old.assign value := by
  cases call with
  | begin => exact .inl ⟨member, fun _ => SinkCall.noConfusion⟩
  | complete => exact .inl ⟨member, fun _ => SinkCall.noConfusion⟩
  | set target value =>
    rw [taken, assigned] at member
    cases found : Assoc.get? target a.items with
    | none =>
      rw [found] at member
      refine .inl ⟨member, fun other same => ?_⟩
      obtain ⟨rfl, -⟩ := SinkCall.set.inj same
      exact Assoc.notMem_keys_of_get?_eq_none found (List.mem_map.mpr ⟨_, member, rfl⟩)
    | some old =>
      rw [found] at member
      rcases (Assoc.mem_put_iff nodup).mp member with same | ⟨older, differs⟩
      · obtain ⟨rfl, rfl⟩ := Prod.mk.inj same
        exact .inr ⟨value, old, rfl, Assoc.mem_of_get?_eq_some found, rfl⟩
      · exact .inl ⟨older, fun other same => differs (SinkCall.set.inj same).1.symm⟩

/-! ## Changes -/

/-- The data items whose values the clients have yet to hear of. -/
def renewed (a : Adapter) : List String := (a.items.filter (·.2.changed)).map Prod.fst

theorem renewed_sublist (a : Adapter) : a.renewed.Sublist a.names :=
  List.filter_sublist.map _

theorem changes_eq {a : Adapter} (nodup : a.names.Nodup) :
    a.changes = a.renewed.map fun item => (item, (a.value? item).getD unavailable) := by
  rw [changes, renewed, List.map_map, ← List.filterMap_eq_map, List.filterMap_filter]
  refine List.filterMap_congr fun e member => ?_
  simp only [Function.comp_apply, value?_of_mem nodup member]
  rfl

theorem keys_changes {a : Adapter} (nodup : a.names.Nodup) : a.changes.map Prod.fst = a.renewed := by
  rw [changes_eq nodup, List.map_map]
  exact List.map_id _

/-! ## Whole runs -/

/-- The adapter after events. -/
def after (a : Adapter) (es : List Event) : Adapter := (a.run es).1

/-- What is sent during events. -/
def sent (a : Adapter) (es : List Event) : List Delivery := (a.run es).2

@[simp] theorem after_one (a : Adapter) (e : Event) : a.after [e] = (a.step e).1 := rfl

theorem after_cons (a : Adapter) (e : Event) (es : List Event) :
    a.after (e :: es) = (a.step e).1.after es := rfl

theorem after_append (a : Adapter) (earlier later : List Event) :
    a.after (earlier ++ later) = (a.after earlier).after later := by
  induction earlier generalizing a with
  | nil => rfl
  | cons e earlier ih => exact ih (a.step e).1

theorem sent_cons (a : Adapter) (e : Event) (es : List Event) :
    a.sent (e :: es) = (a.step e).2 ++ (a.step e).1.sent es := rfl

/-- What holds between two events, for data items of the given names. -/
structure Sound (items : List String) (a : Adapter) : Prop where
  names : a.names = items
  distinct : items.Nodup
  wired : a.Wired
  idle : a.gathering = false → a.Settled

variable {a b : Adapter} {items : List String} {e : Event} {out : List Delivery}

theorem sound_start (items : List String) (heartbeat : Nat) :
    Sound items.eraseDups (start items heartbeat) := by
  have names : (start items heartbeat).names = items.eraseDups := by
    rw [Adapter.names, start, Assoc.keys_ofPairs, List.map_map]
    exact congrArg _ (List.map_id items)
  refine ⟨names, names ▸ Assoc.nodup_keys_ofPairs _, wired_start items heartbeat, fun _ e member => ?_⟩
  obtain ⟨item, -, rfl⟩ := List.mem_map.mp (Assoc.mem_of_mem_ofPairs member)
  rfl

/-- At the start no value is set. -/
theorem value?_start (items : List String) (heartbeat : Nat) (item : String) :
    (start items heartbeat).value? item = none := by
  rw [value?]
  cases found : Assoc.get? item (start items heartbeat).items with
  | none => rfl
  | some slot =>
    have among := Assoc.mem_of_mem_ofPairs (Assoc.mem_of_get?_eq_some found)
    obtain ⟨_, -, same⟩ := List.mem_map.mp among
    rw [Option.bind_some, ← (Prod.mk.inj same).2]

theorem Sound.nodup (sound : Sound items a) : a.names.Nodup := sound.names ▸ sound.distinct

theorem Sound.mono (sound : Sound items a) (same : b.items = a.items) (gathers : b.gathering = a.gathering)
    (wired : b.Wired) : Sound items b := by
  refine ⟨by rw [Adapter.names, same]; exact sound.names, sound.distinct, wired, fun idle => ?_⟩
  rw [Settled, same]
  exact sound.idle (gathers ▸ idle)

theorem Wired.takes (wired : a.Wired) (takes : Takes a e (b, out)) : b.Wired := by
  cases takes with
  | @waits call early => exact wired.taken call
  | @sends call due => exact (wired.taken call).mono rfl rfl rfl
  | @joins peer => exact wired.connect peer
  | answers | ignores | gone => exact wired
  | breaks reads | leaves reads => exact wired.leave reads

theorem Sound.takes (sound : Sound items a) (takes : Takes a e (b, out)) : Sound items b := by
  have wired := sound.wired.takes takes
  cases takes with
  | @sends call due =>
    refine ⟨?_, sound.distinct, wired, fun _ => settled_settled _⟩
    exact (names_settled _).trans ((names_taken a call).trans sound.names)
  | @waits call early =>
    refine ⟨(names_taken a call).trans sound.names, sound.distinct, wired, fun idle e member => ?_⟩
    cases call with
    | begin => exact absurd idle (by simp [taken])
    | complete => exact absurd early (by simp [flushes])
    | set item value =>
      -- Outside of transactions only an unknown data item has nothing sent.
      rw [taken, assigned] at idle member
      cases found : Assoc.get? item a.items with
      | none =>
        rw [found] at idle member
        exact sound.idle idle e member
      | some slot =>
        rw [found] at idle
        exact absurd early (by simp [flushes, found, show a.gathering = false from idle])
  | joins | answers | ignores | breaks | leaves | gone => exact sound.mono rfl rfl wired

theorem Sound.after (sound : Sound items a) (es : List Event) : Sound items (a.after es) := by
  induction es generalizing a with
  | nil => exact sound
  | cons e es ih => exact ih (sound.takes (step_takes a e))

theorem Takes.heartbeat (takes : Takes a e (b, out)) : b.heartbeat = a.heartbeat := by
  cases takes with
  | @waits call early => exact heartbeat_taken a call
  | @sends call due => exact heartbeat_taken a call
  | joins | answers | ignores | breaks | leaves | gone => rfl

theorem heartbeat_after (a : Adapter) (es : List Event) : (a.after es).heartbeat = a.heartbeat := by
  induction es generalizing a with
  | nil => rfl
  | cons e es ih => exact (ih (a.step e).1).trans (step_takes a e).heartbeat

end ActionBridge.Shdr.Adapter
