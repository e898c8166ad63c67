import ActionBridge.Proofs.Shdr.Presence
import ActionBridge.Proofs.Shdr.Renewal
import ActionBridge.Proofs.Shdr.Values

/-!
# Replication

Whoever reads what the adapter sends sees the values of all data items whenever no transaction
gathers, and every record of changes lists the data items with other values since the last one. Who is
there, which values are set and when changes are sent is told by the events of the run.
-/
namespace ActionBridge.Shdr.Adapter

variable {a b : Adapter} {items : List String} {e : Event} {out : List Delivery}

/-! ## Legible messages -/

/-- All names are plain and all values stand on one line. -/
def Tidy (a : Adapter) : Prop := ∀ entry ∈ a.items, Plain entry.1 ∧ Unbroken entry.2.shown

/-- An event whose value, if it has one, stands on one line. -/
def Event.Unbroken : Event → Prop
  | .told (.set _ value) => Shdr.Unbroken value
  | _ => True

instance : DecidablePred Event.Unbroken
  | .told (.set _ value) => inferInstanceAs (Decidable (Shdr.Unbroken value))
  | .told .begin => .isTrue trivial
  | .told .complete => .isTrue trivial
  | .connected _ => .isTrue trivial
  | .received _ _ => .isTrue trivial
  | .disconnected _ => .isTrue trivial

theorem tidy_start (plain : ∀ item ∈ items, Plain item) (heartbeat : Nat) :
    (start items heartbeat).Tidy := by
  intro entry member
  obtain ⟨item, inside, rfl⟩ := List.mem_map.mp (Assoc.mem_of_mem_ofPairs member)
  exact ⟨plain item inside, (by decide : '\n' ∉ unavailable.toList)⟩

theorem Tidy.taken (tidy : a.Tidy) (nodup : a.names.Nodup) {call : SinkCall}
    (unbroken : (Event.told call).Unbroken) : (a.taken call).Tidy := by
  rintro ⟨item, slot⟩ member
  rcases mem_items_taken nodup member with ⟨older, -⟩ | ⟨value, old, rfl, older, rfl⟩
  · exact tidy _ older
  · refine ⟨(tidy _ older).1, ?_⟩
    rw [Slot.assign]
    split
    · exact (tidy _ older).2
    · exact unbroken

theorem Tidy.settled (tidy : a.Tidy) : a.settled.Tidy := by
  intro entry member
  obtain ⟨old, older, rfl⟩ := List.mem_map.mp member
  exact tidy old older

theorem Tidy.legible_changes (tidy : a.Tidy) : (Message.record a.changes).Legible := by
  intro field member
  obtain ⟨entry, inside, -, rfl⟩ := exists_of_mem_changes member
  exact tidy entry inside

theorem Tidy.legible_fullRecord (tidy : a.Tidy) : (Message.record a.fullRecord).Legible := by
  intro field member
  obtain ⟨entry, inside, rfl⟩ := List.mem_map.mp member
  exact tidy entry inside

theorem Tidy.takes (tidy : a.Tidy) (nodup : a.names.Nodup) (unbroken : e.Unbroken)
    (takes : Takes a e (b, out)) : b.Tidy ∧ ∀ d ∈ out, d.message.Legible := by
  cases takes with
  | waits early => exact ⟨tidy.taken nodup unbroken, nofun⟩
  | @sends call due =>
    have taken := tidy.taken nodup unbroken
    refine ⟨taken.settled, fun d member => ?_⟩
    split at member
    · exact absurd member List.not_mem_nil
    · obtain ⟨client, -, rfl⟩ := List.mem_map.mp member
      exact taken.legible_changes
  | @joins peer =>
    refine ⟨tidy, fun d member => ?_⟩
    split at member
    · exact absurd member List.not_mem_nil
    · obtain rfl := List.mem_singleton.mp member
      exact tidy.legible_fullRecord
  | answers reads decoded ping found =>
    refine ⟨tidy, fun d member => ?_⟩
    obtain rfl := List.mem_singleton.mp member
    trivial
  | ignores | breaks | leaves | gone => exact ⟨tidy, nofun⟩

theorem Tidy.after (tidy : a.Tidy) (sound : Sound items a) {es : List Event}
    (unbroken : ∀ e ∈ es, e.Unbroken) :
    (a.after es).Tidy ∧ ∀ d ∈ a.sent es, d.message.Legible := by
  induction es generalizing a with
  | nil => exact ⟨tidy, nofun⟩
  | cons e es ih =>
    have takes := step_takes a e
    obtain ⟨next, first⟩ := tidy.takes sound.nodup (unbroken e List.mem_cons_self) takes
    obtain ⟨last, later⟩ :=
      ih next (sound.takes takes) fun e member => unbroken e (List.mem_cons_of_mem _ member)
    refine ⟨last, fun d member => ?_⟩
    rw [sent_cons] at member
    exact (List.mem_append.mp member).elim (first d) (later d)

theorem legible_inbox (tidy : a.Tidy) (sound : Sound items a) {es : List Event}
    (unbroken : ∀ e ∈ es, e.Unbroken) (client : Nat) :
    ∀ m ∈ inbox client (a.sent es), m.Legible := fun _ member =>
  (tidy.after sound unbroken).2 _ (mem_inbox.mp member)

/-! ## Sendings by events -/

/-- Whether an event has the changes sent: the end of a transaction, or an update of a data item while
    none gathers. -/
def Event.flushes (items : List String) (gathering : Bool) : Event → Bool
  | .told .complete => true
  | .told (.set item _) => !gathering && decide (item ∈ items)
  | _ => false

/-- Whether changes are sent at an event behind others. -/
def sendsAt (items : List String) (es : List Event) (e : Event) : Bool :=
  e.flushes items (gathersAfter es)

/-- Changes were sent last at the end of `earlier`, if ever, and not during `recent`. -/
structure SentLast (items : List String) (earlier recent : List Event) : Prop where
  sent : earlier = [] ∨ ∃ es e, earlier = es ++ [e] ∧ sendsAt items es e = true
  quiet : ∀ before e later, recent = before ++ e :: later → sendsAt items (earlier ++ before) e = false

/-- Some update among events behind `earlier` sets `item` to another value than was set last until
    then. -/
def Altered (earlier es : List Event) (item : String) : Prop :=
  ∃ before value later, es = before ++ .told (.set item value) :: later ∧
    lastSet? item (earlier ++ before) ≠ some value

theorem due_eq (sound : Sound items.eraseDups a) (e : Event) : a.due e = e.flushes items a.gathering := by
  cases e with
  | told call =>
    cases call with
    | begin => rfl
    | complete => rfl
    | set item value =>
      have listed : item ∈ a.names ↔ item ∈ items := by rw [sound.names, List.mem_eraseDups]
      rw [due, Adapter.flushes, Event.flushes]
      cases found : Assoc.get? item a.items with
      | none => simp [← listed, names, Assoc.notMem_keys_of_get?_eq_none found]
      | some slot => simp [← listed, names, Assoc.mem_keys_of_get?_eq_some found]
  | connected | received | disconnected => rfl

variable {heartbeat : Nat} {earlier recent es : List Event}

theorem gathering_after_start (items : List String) (heartbeat : Nat) (es : List Event) :
    ((start items heartbeat).after es).gathering = gathersAfter es :=
  gathering_after _ es

theorem value?_after_start {item : String} (known : item ∈ items) (heartbeat : Nat) (es : List Event) :
    ((start items heartbeat).after es).value? item = lastSet? item es := by
  rw [value?_after (sound_start items heartbeat) (List.mem_eraseDups.mpr known), value?_start, Option.or_none]

/-- A record of data items after a run has the values set last. -/
theorem record_after_start {fresh : List String} (known : ∀ item ∈ fresh, item ∈ items) (heartbeat : Nat)
    (es : List Event) :
    (fresh.map fun item => (item, (((start items heartbeat).after es).value? item).getD unavailable))
      = fresh.map fun item => (item, (lastSet? item es).getD unavailable) := by
  refine List.map_congr_left fun item member => ?_
  rw [value?_after_start (known item member)]

theorem due_after_start (items : List String) (heartbeat : Nat) (es : List Event) (e : Event) :
    ((start items heartbeat).after es).due e = sendsAt items es e := by
  rw [due_eq ((sound_start items heartbeat).after es), gathering_after_start, sendsAt]

theorem renewed_after_start_iff {item : String} (known : item ∈ items) :
    ((start items heartbeat).after earlier).Renewed es item ↔ Altered earlier es item := by
  simp only [Renewed, Altered, ← after_append, value?_after_start known]

theorem sentLast_of_lastSent (last : LastSent (start items heartbeat) earlier recent) :
    SentLast items earlier recent := by
  constructor
  · rcases last.sent with none | ⟨es, e, split, due⟩
    · exact .inl none
    · exact .inr ⟨es, e, split, due_after_start items heartbeat es e ▸ due⟩
  · intro before e later split
    rw [← due_after_start items heartbeat, after_append]
    exact last.quiet before e later split

/-! ## Whole runs -/

/-- What the adapter is after events: it has the data items with the values set last, gathers while a
    transaction is open, and has the clients that are there. -/
structure Reflects (items : List String) (es : List Event) (a : Adapter) : Prop where
  names : a.names = items.eraseDups
  values : ∀ item ∈ items, a.value? item = lastSet? item es
  gathering : a.gathering = gathersAfter es
  clients : ∀ client, client ∈ a.streams ↔ present client es = true

/-- A client that is there after the events, when no transaction gathers, has read the values of all
    data items that were set last, with any timestamps in what it was sent. -/
def ShowsAll (items : List String) (heartbeat : Nat) (es : List Event) : Prop :=
  ∀ client text, present client es = true → gathersAfter es = false →
    Written (inbox client ((start items heartbeat).sent es)) text →
    ∀ item, View.empty.read text item
      = if item ∈ items then some (writtenValue ((lastSet? item es).getD unavailable)) else none

/-- What is sent at `e` behind `earlier`, at whose end changes were sent last, and `recent`. When changes
    are sent every client that is there gets one record, with the data items that got other values since,
    each once and as they were registered, or nothing if there are none. Whoever connects gets the record
    of all values. Nothing else is sent but the answers to pings. -/
structure Announces (items : List String) (heartbeat : Nat) (earlier recent : List Event) (e : Event) :
    Prop where
  changes : sendsAt items (earlier ++ recent) e = true →
    ∃ fresh : List String, fresh.Sublist items.eraseDups ∧
      (∀ item, item ∈ fresh ↔ item ∈ items ∧ Altered earlier (recent ++ [e]) item) ∧
      ∀ client, inbox client (((start items heartbeat).after (earlier ++ recent)).step e).2
        = if present client (earlier ++ recent) = true ∧ fresh ≠ [] then
            [.record (fresh.map fun item =>
              (item, (lastSet? item (earlier ++ recent ++ [e])).getD unavailable))]
          else []
  joins : ∀ peer client, e = .connected peer →
    inbox client (((start items heartbeat).after (earlier ++ recent)).step e).2
      = if client = accepted (earlier ++ recent) ∧ items ≠ [] then
          [.record (items.eraseDups.map fun item =>
            (item, (lastSet? item (earlier ++ recent)).getD unavailable))]
        else []
  pongs : sendsAt items (earlier ++ recent) e = false → (∀ peer, e ≠ .connected peer) →
    ∀ client, ∀ m ∈ inbox client (((start items heartbeat).after (earlier ++ recent)).step e).2,
      m = .pong heartbeat

theorem reflects_after_start (items : List String) (heartbeat : Nat) (es : List Event) :
    Reflects items es ((start items heartbeat).after es) where
  names := ((sound_start items heartbeat).after es).names
  values _ known := value?_after_start known heartbeat es
  gathering := gathering_after_start items heartbeat es
  clients client := mem_streams_after_start items heartbeat client es

theorem showsAll_of_unbroken (plain : ∀ item ∈ items, Plain item) (unbroken : ∀ e ∈ es, e.Unbroken) :
    ShowsAll items heartbeat es := by
  intro client text here idle written item
  have sound := sound_start items heartbeat
  have reached := sound.after es
  have reflects := reflects_after_start items heartbeat es
  have outside : client ∉ (start items heartbeat).streams := List.not_mem_nil
  have begins : Follows (start items heartbeat) client View.empty :=
    ⟨fun _ _ => rfl, fun there => absurd there outside⟩
  have follows := begins.after sound es
  rw [read_of_written written (legible_inbox (tidy_start plain heartbeat) sound unbroken client)]
  split
  · rename_i known
    have registered : item ∈ ((start items heartbeat).after es).names :=
      reflects.names ▸ List.mem_eraseDups.mpr known
    obtain ⟨entry, member, rfl⟩ := List.mem_map.mp registered
    have settled := reached.idle (reflects.gathering.trans idle)
    rw [follows.current ((reflects.clients client).mpr here) entry member (settled entry member),
      ← reflects.values _ known, value?_of_mem reached.nodup member]
    rfl
  · rename_i unknown
    refine follows.known item ?_
    rwa [reflects.names, List.mem_eraseDups]

theorem announces_of_lastSent (last : LastSent (start items heartbeat) earlier recent) (e : Event) :
    Announces items heartbeat earlier recent e := by
  have sound := sound_start items heartbeat
  have here := sound.after (earlier ++ recent)
  have counted := mem_streams_after_start items heartbeat
  constructor
  · intro sends
    have settled := last.settled (sound.idle rfl)
    have due : (((start items heartbeat).after earlier).after recent).due e = true := by
      rw [← after_append, due_after_start]
      exact sends
    obtain ⟨fresh, sublist, listed, sent⟩ := inbox_of_due (sound.after earlier) settled last.quiet due
    have changed (item : String) : item ∈ fresh ↔ item ∈ items ∧ Altered earlier (recent ++ [e]) item := by
      rw [listed, List.mem_eraseDups]
      exact and_congr_right fun known => renewed_after_start_iff known
    refine ⟨fresh, sublist, changed, fun client => ?_⟩
    have known : ∀ item ∈ fresh, item ∈ items := fun item member => ((changed item).mp member).1
    have values := record_after_start known heartbeat (earlier ++ recent ++ [e])
    rw [after_append, after_one, after_append] at values
    rw [after_append, sent, values, ← after_append]
    simp only [counted]
  · rintro peer client rfl
    have readers := length_readers_after_start items heartbeat (earlier ++ recent)
    have known : ∀ item ∈ items.eraseDups, item ∈ items := fun _ => List.mem_eraseDups.mp
    have values := record_after_start known heartbeat (earlier ++ recent)
    have none : items.eraseDups = [] ↔ items = [] := by
      simp only [List.eq_nil_iff_forall_not_mem, List.mem_eraseDups]
    rw [inbox_connected here.nodup, here.names, values, readers]
    simp only [ne_eq, none]
  · intro quiet other client m member
    rw [← due_after_start items heartbeat] at quiet
    rw [inbox_of_not_due quiet other member, heartbeat_after]
    rfl

/-- After every run the adapter has the values that were set last and the clients that are there. Each
    of these has read them all, whenever no transaction gathers and every value stands on one line. And
    nothing is sent but the changes since the last sending to the clients that are there, the record of
    all values to a new client, and answers to pings. -/
theorem start_replicates (items : List String) (plain : ∀ item ∈ items, Plain item) (heartbeat : Nat)
    (es : List Event) :
    Reflects items es ((start items heartbeat).after es) ∧
      ((∀ e ∈ es, e.Unbroken) → ShowsAll items heartbeat es) ∧
      ∀ e, ∃ earlier recent, es = earlier ++ recent ∧ SentLast items earlier recent ∧
        Announces items heartbeat earlier recent e := by
  refine ⟨reflects_after_start items heartbeat es, showsAll_of_unbroken plain, fun e => ?_⟩
  obtain ⟨earlier, recent, split, last⟩ := exists_lastSent (start items heartbeat) es
  exact ⟨earlier, recent, split, sentLast_of_lastSent last, announces_of_lastSent last e⟩

/-- A client that connects within a transaction is sent all values, and at the end of the transaction the
    change that it has heard of already. What it reads is the value that was set. -/
theorem start_replicates_amid_transaction :
    (∀ item ∈ ["path", "mode"], Plain item) ∧
      inbox 0 ((start ["path", "mode"] 10000).sent [.told .begin, .told (.set "path" "a|b"),
          .connected "127.0.0.1:40000", .told .complete])
        = [.record [("path", "a|b"), ("mode", "UNAVAILABLE")], .record [("path", "a|b")]] ∧
      ∀ text, Written (inbox 0 ((start ["path", "mode"] 10000).sent [.told .begin,
          .told (.set "path" "a|b"), .connected "127.0.0.1:40000", .told .complete])) text →
        View.empty.read text "path" = some "a/b" ∧ View.empty.read text "mode" = some "UNAVAILABLE" := by
  have plain : ∀ item ∈ ["path", "mode"], Plain item := by decide
  refine ⟨plain, by decide, fun text written => ?_⟩
  have shows := (start_replicates ["path", "mode"] plain 10000 [.told .begin, .told (.set "path" "a|b"),
    .connected "127.0.0.1:40000", .told .complete]).2.1 (by decide) 0 text (by decide) (by decide) written
  rw [shows, shows]
  decide

end ActionBridge.Shdr.Adapter
