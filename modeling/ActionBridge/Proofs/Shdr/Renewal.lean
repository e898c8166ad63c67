import ActionBridge.Proofs.Shdr.Follows

/-!
# What records of changes list

A slot has a change to be sent when some call since the last sending gave it another value than
it held then (`Renewed`); a call back to the first value makes no difference to that. So these
are the data items that the next record lists, and without one there is no record.
-/
namespace ActionBridge.Shdr.Adapter

variable {a : Adapter} {items : List String} {es recent : List Event} {e : Event} {item : String}

/-! ## Sendings -/

/-- Whether an event has the changes sent. -/
def due (a : Adapter) : Event → Bool
  | .told call => a.flushes call
  | _ => false

theorem step_of_due (due : a.due e = true) :
    ∃ call, e = .told call ∧ a.step e = (a.taken call).sendChanges := by
  cases e with
  | told call => exact ⟨call, rfl, (call_eq a call).trans (if_pos due)⟩
  | connected | received | disconnected => exact nomatch due

theorem step_of_not_due (early : a.due e = false) :
    (∃ call, e = .told call ∧ (a.step e).1 = a.taken call) ∨
      (∀ call, e ≠ .told call) ∧ (a.step e).1.items = a.items := by
  have takes := step_takes a e
  generalize a.step e = result at takes ⊢
  cases takes with
  | @waits call _ => exact .inl ⟨call, rfl, rfl⟩
  | sends due => exact absurd early (by simp [Adapter.due, due])
  | joins | answers | ignores | breaks | leaves | gone =>
    exact .inr ⟨fun _ => Event.noConfusion, rfl⟩

/-- During the events, which happen to `a`, no changes are sent. -/
def Quiet (a : Adapter) (es : List Event) : Prop :=
  ∀ before e later, es = before ++ e :: later → (a.after before).due e = false

/-- Some call among the events, which happen to `a`, gives `item` another value than it holds
    then. -/
def Renewed (a : Adapter) (es : List Event) (item : String) : Prop :=
  ∃ before value later, es = before ++ .told (.set item value) :: later ∧
    (a.after before).value? item ≠ some value

/-- The changes were sent last at the end of `earlier`, if ever, and not during `recent`. -/
structure LastSent (a : Adapter) (earlier recent : List Event) : Prop where
  sent : earlier = [] ∨ ∃ es e, earlier = es ++ [e] ∧ (a.after es).due e = true
  quiet : (a.after earlier).Quiet recent

/-- An event among others and a last one is the last one or among the others. -/
theorem split_snoc {before later : List Event} {x : Event} (split : es ++ [e] = before ++ x :: later) :
    es = before ∧ e = x ∨ ∃ rest, es = before ++ x :: rest := by
  rcases List.eq_nil_or_concat later with rfl | ⟨rest, y, rfl⟩
  · obtain ⟨same, last⟩ := List.append_inj' split rfl
    exact .inl ⟨same, (List.cons.inj last).1⟩
  · rw [List.concat_eq_append, ← List.cons_append, ← List.append_assoc] at split
    exact .inr ⟨rest, (List.append_inj' split rfl).1⟩

theorem quiet_nil (a : Adapter) : a.Quiet [] :=
  fun _ _ _ split => absurd split (by simp)

theorem quiet_snoc : a.Quiet (es ++ [e]) ↔ a.Quiet es ∧ (a.after es).due e = false := by
  constructor
  · refine fun quiet => ⟨fun before x later split => quiet before x (later ++ [e]) ?_, quiet es e [] rfl⟩
    rw [split, List.append_assoc, List.cons_append]
  · rintro ⟨quiet, last⟩ before x later split
    rcases split_snoc split with ⟨rfl, rfl⟩ | ⟨rest, among⟩
    · exact last
    · exact quiet before x rest among

theorem not_renewed_nil (a : Adapter) (item : String) : ¬ a.Renewed [] item := by
  rintro ⟨before, value, later, split, -⟩
  exact absurd split (by simp)

theorem renewed_snoc : a.Renewed (es ++ [e]) item ↔
    a.Renewed es item ∨ ∃ value, e = .told (.set item value) ∧ (a.after es).value? item ≠ some value := by
  constructor
  · rintro ⟨before, value, later, split, other⟩
    rcases split_snoc split with ⟨rfl, rfl⟩ | ⟨rest, among⟩
    · exact .inr ⟨value, rfl, other⟩
    · exact .inl ⟨before, value, rest, among, other⟩
  · rintro (⟨before, value, later, rfl, other⟩ | ⟨value, rfl, other⟩)
    · exact ⟨before, value, later ++ [e], by rw [List.append_assoc, List.cons_append], other⟩
    · exact ⟨es, value, [], rfl, other⟩

/-- There always is a last sending. -/
theorem exists_lastSent (a : Adapter) (es : List Event) :
    ∃ earlier recent, es = earlier ++ recent ∧ LastSent a earlier recent := by
  induction es using List.reverseRecOn with
  | nil => exact ⟨[], [], rfl, .inl rfl, quiet_nil a⟩
  | append_singleton es e ih =>
    obtain ⟨earlier, recent, rfl, sent, quiet⟩ := ih
    cases here : (a.after (earlier ++ recent)).due e with
    | true => exact ⟨_, [], (List.append_nil _).symm, .inr ⟨_, e, rfl, here⟩, quiet_nil _⟩
    | false =>
      rw [after_append] at here
      exact ⟨earlier, recent ++ [e], List.append_assoc .., sent, quiet_snoc.mpr ⟨quiet, here⟩⟩

/-- After the last sending there was nothing left to send. -/
theorem LastSent.settled {earlier recent : List Event} (settled : a.Settled)
    (last : LastSent a earlier recent) : (a.after earlier).Settled := by
  rcases last.sent with rfl | ⟨es, e, rfl, due⟩
  · exact settled
  · obtain ⟨call, -, does⟩ := step_of_due due
    rw [after_append, after_one, does]
    exact settled_settled _

/-! ## Slots with changes -/

/-- The slots of `b` with changes are those that were given other values during the events. -/
def Tracks (a : Adapter) (es : List Event) (b : Adapter) : Prop :=
  ∀ entry ∈ b.items, entry.2.changed = true ↔ a.Renewed es entry.1

theorem tracks_nil (settled : a.Settled) : a.Tracks [] a := by
  intro entry member
  rw [settled entry member]
  exact ⟨nofun, fun renewed => absurd renewed (not_renewed_nil a _)⟩

/-- A call makes a change to be sent of every new value. -/
theorem Tracks.taken (tracks : a.Tracks es (a.after es)) (nodup : (a.after es).names.Nodup)
    (call : SinkCall) : a.Tracks (es ++ [.told call]) ((a.after es).taken call) := by
  rintro ⟨item, slot⟩ member
  rw [renewed_snoc]
  rcases mem_items_taken nodup member with ⟨older, other⟩ | ⟨value, old, rfl, older, rfl⟩
  · rw [tracks _ older]
    refine ⟨.inl, fun renewed => renewed.resolve_right ?_⟩
    rintro ⟨value, same, -⟩
    exact other value (Event.told.inj same)
  · have holds := tracks _ older
    have value : (a.after es).value? item = old.value := value?_of_mem nodup older
    simp only [Event.told.injEq, SinkCall.set.injEq, true_and, value, exists_eq_left', ← holds, Slot.assign]
    split <;> simp_all

theorem Tracks.other (tracks : a.Tracks es (a.after es)) (other : ∀ call, e ≠ .told call)
    {b : Adapter} (same : b.items = (a.after es).items) : a.Tracks (es ++ [e]) b := by
  intro entry member
  rw [renewed_snoc, tracks entry (same ▸ member)]
  exact ⟨.inl, fun renewed => renewed.resolve_right fun ⟨_, told, _⟩ => other _ told⟩

theorem tracks_of_quiet (sound : Sound items a) (settled : a.Settled) (quiet : a.Quiet es) :
    a.Tracks es (a.after es) := by
  induction es using List.reverseRecOn with
  | nil => exact tracks_nil settled
  | append_singleton es e ih =>
    obtain ⟨before, last⟩ := quiet_snoc.mp quiet
    have tracks := ih before
    rw [after_append, after_one]
    rcases step_of_not_due last with ⟨call, rfl, does⟩ | ⟨other, same⟩
    · rw [does]
      exact tracks.taken (sound.after es).nodup call
    · exact tracks.other other same

/-! ## Records -/

/-- A sending lists the data items with other values since the last one, as they are now. -/
theorem inbox_of_due (sound : Sound items a) (settled : a.Settled) (quiet : a.Quiet es)
    (due : (a.after es).due e = true) :
    ∃ fresh : List String, fresh.Sublist items ∧
      (∀ item, item ∈ fresh ↔ item ∈ items ∧ a.Renewed (es ++ [e]) item) ∧
      ∀ client, inbox client ((a.after es).step e).2
        = if client ∈ (a.after es).streams ∧ fresh ≠ [] then
            [.record (fresh.map fun item =>
              (item, (((a.after es).step e).1.value? item).getD unavailable))]
          else [] := by
  obtain ⟨call, rfl, does⟩ := step_of_due due
  have here := sound.after es
  have names : ((a.after es).taken call).names = items := (names_taken _ call).trans here.names
  have nodup : ((a.after es).taken call).names.Nodup := names ▸ here.distinct
  have tracks := (tracks_of_quiet sound settled quiet).taken here.nodup call
  refine ⟨((a.after es).taken call).renewed, names ▸ renewed_sublist _, fun item => ?_, fun client => ?_⟩
  · constructor
    · intro listed
      obtain ⟨entry, inside, rfl⟩ := List.mem_map.mp listed
      obtain ⟨member, changed⟩ := List.mem_filter.mp inside
      exact ⟨names ▸ List.mem_map.mpr ⟨entry, member, rfl⟩, (tracks entry member).mp changed⟩
    · rintro ⟨known, renewed⟩
      rw [← names] at known
      obtain ⟨entry, member, rfl⟩ := List.mem_map.mp known
      exact List.mem_map.mpr ⟨entry, List.mem_filter.mpr ⟨member, (tracks entry member).mpr renewed⟩, rfl⟩
  · rw [does, inbox_sendChanges (here.wired.taken call), streams_taken, changes_eq nodup]
    have values (item : String) : ((a.after es).taken call).sendChanges.1.value? item
        = ((a.after es).taken call).value? item := value?_settled _ item
    simp only [values, ne_eq, List.map_eq_nil_iff]

/-- The record at the start of a client lists all values, and goes to nobody else. -/
theorem inbox_connected (nodup : a.names.Nodup) (peer : String) (client : Nat) :
    inbox client (a.step (.connected peer)).2
      = if client = a.readers.length ∧ a.names ≠ [] then
          [.record (a.names.map fun item => (item, (a.value? item).getD unavailable))]
        else [] := by
  have record : a.fullRecord = a.names.map fun item => (item, (a.value? item).getD unavailable) := by
    rw [fullRecord, names, List.map_map]
    refine List.map_congr_left fun entry inside => ?_
    rw [Function.comp_apply, value?_of_mem nodup inside]
    rfl
  rw [step, inbox_connect, record]
  simp only [names, ne_eq, List.map_eq_nil_iff]

/-- All else that is sent are the answers to pings. -/
theorem inbox_of_not_due (early : a.due e = false) (other : ∀ peer, e ≠ .connected peer) {client : Nat}
    {m : Message} (member : m ∈ inbox client (a.step e).2) : m = .pong a.heartbeat := by
  have among := mem_inbox.mp member
  have takes := step_takes a e
  generalize a.step e = result at takes among
  cases takes with
  | sends due => exact absurd early (by simp [Adapter.due, due])
  | @joins peer => exact absurd rfl (other peer)
  | answers reads decoded ping found => exact (Delivery.mk.inj (List.mem_singleton.mp among)).2
  | waits | ignores | breaks | leaves | gone => exact absurd among List.not_mem_nil

end ActionBridge.Shdr.Adapter
