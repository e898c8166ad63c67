import ActionBridge.Proofs.Shdr.Framing
import ActionBridge.Proofs.Transactions
import Mathlib.Data.List.Infix

/-!
# Views and the boundaries of transactions

While every call is in its place, the records of changes bring each client to the state at the end
of a transaction (`viewOf_of_closed`), and so does the record at the start of a client, unless the
client joins within a transaction. Then that record shows the updates which the transaction has
made so far, since the slots hold these already, and the next record is the one at its end
(`record_at_boundary`).
-/
namespace ActionBridge.Shdr.Adapter

variable {a : Adapter} {items : List String} {es : List Event} {e : Event} {client : Nat} {item : String}

/-! ## Brackets -/

/-- Whether a transaction is open after an event, if the event is in its place. -/
def Event.bracket (opened : Bool) : Event → Option Bool
  | .told call => call.bracket opened
  | _ => some opened

/-- Whether a transaction is open after events, if all calls among them are in their places. -/
def bracketAfter (es : List Event) : Option Bool :=
  es.foldlM (fun opened e => e.bracket opened) false

theorem bracketAfter_snoc (es : List Event) (e : Event) :
    bracketAfter (es ++ [e]) = (bracketAfter es).bind fun opened => e.bracket opened := by
  simp [bracketAfter, List.foldlM_append]

/-- Of the calls that are in their places only the begin and the end of a transaction change whether one
    gathers. -/
theorem gathers_of_bracket {opened now : Bool} (placed : e.bracket opened = some now) :
    e.gathers opened = now := by
  cases e with
  | told call =>
    cases call with
    | begin =>
      cases opened with
      | false => exact Option.some.inj placed
      | true => cases placed
    | set target value =>
      cases opened with
      | false => cases placed
      | true => exact Option.some.inj placed
    | complete =>
      cases opened with
      | false => cases placed
      | true => exact Option.some.inj placed
  | connected | received | disconnected => exact Option.some.inj placed

/-- The adapter gathers while a transaction is open. -/
theorem gathering_of_bracketAfter (idle : a.gathering = false) {opened : Bool}
    (placed : bracketAfter es = some opened) : (a.after es).gathering = opened := by
  induction es using List.reverseRecOn generalizing opened with
  | nil => exact idle.trans (Option.some.inj placed)
  | append_singleton es e ih =>
    rw [bracketAfter_snoc] at placed
    obtain ⟨before, earlier, last⟩ := Option.bind_eq_some_iff.mp placed
    rw [after_append, after_one, gathering_step, ih earlier]
    exact gathers_of_bracket last

/-- Where a transaction is open, one has begun that was not completed. -/
theorem exists_begin_of_open (opened : bracketAfter es = some true) :
    ∃ before inside, es = before ++ .told .begin :: inside ∧ bracketAfter before = some false ∧
      .told .complete ∉ inside := by
  induction es using List.reverseRecOn with
  | nil => cases opened
  | append_singleton es e ih =>
    rw [bracketAfter_snoc] at opened
    obtain ⟨now, earlier, last⟩ := Option.bind_eq_some_iff.mp opened
    cases now with
    | false =>
      refine ⟨es, [], ?_, earlier, List.not_mem_nil⟩
      cases e with
      | told call =>
        cases call with
        | begin => rfl
        | set target value => cases last
        | complete => cases last
      | connected | received | disconnected => cases last
    | true =>
      obtain ⟨before, inside, rfl, closed, going⟩ := ih earlier
      refine ⟨before, inside ++ [e], by rw [List.append_assoc, List.cons_append], closed, ?_⟩
      rw [List.mem_append, List.mem_singleton, not_or]
      refine ⟨going, fun ended => ?_⟩
      rw [← ended] at last
      cases last

/-- A call that has the changes sent leaves no transaction open. -/
theorem not_due_of_open {opened : Bool} (gathers : a.gathering = opened)
    (placed : e.bracket opened = some true) : a.due e = false := by
  cases e with
  | told call =>
    cases call with
    | begin => rfl
    | set target value =>
      cases opened with
      | false => cases placed
      | true => exact not_due_of_gathering gathers (by simp)
    | complete => cases opened <;> cases placed
  | connected | received | disconnected => rfl

/-! ## Views -/

/-- What a client sees that has heard of every value. -/
def shown (a : Adapter) : View := fun item =>
  if item ∈ a.names then some (writtenValue ((a.value? item).getD unavailable)) else none

/-- What a client has learned from all that it was sent. -/
def viewOf (a : Adapter) (client : Nat) (es : List Event) : View :=
  (inbox client (a.sent es)).foldl View.learn View.empty

theorem sent_snoc (a : Adapter) (es : List Event) (e : Event) :
    a.sent (es ++ [e]) = a.sent es ++ ((a.after es).step e).2 := by
  induction es generalizing a with
  | nil => exact List.append_nil _
  | cons first es ih =>
    rw [List.cons_append, sent_cons, sent_cons, ih, List.append_assoc]
    rfl

theorem viewOf_snoc (a : Adapter) (client : Nat) (es : List Event) (e : Event) :
    a.viewOf client (es ++ [e])
      = (inbox client ((a.after es).step e).2).foldl View.learn (a.viewOf client es) := by
  rw [viewOf, sent_snoc, inbox_append, List.foldl_append, viewOf]

theorem follows_viewOf (sound : Sound items a) (outside : client ∉ a.streams) (es : List Event) :
    Follows (a.after es) client (a.viewOf client es) := by
  have start : Follows a client View.empty := ⟨fun _ _ => rfl, fun here => absurd here outside⟩
  exact start.after sound es

/-- A client to which no change is left to be sent sees every value. -/
theorem Follows.eq_shown {v : View} (follows : Follows a client v) (nodup : a.names.Nodup)
    (here : client ∈ a.streams) (settled : a.Settled) : v = a.shown := by
  funext item
  by_cases known : item ∈ a.names
  · obtain ⟨entry, member, rfl⟩ := List.mem_map.mp known
    have value := value?_of_mem nodup member
    rw [follows.current here entry member (settled entry member), shown, if_pos known, value]
    rfl
  · rw [follows.known item known, shown, if_neg known]

/-- The record at the start of a client shows it every value, sent or not. -/
theorem learn_inbox_connect {v : View} (nodup : a.names.Nodup)
    (known : ∀ item ∉ a.names, v item = none) (peer : String) :
    (inbox a.readers.length (a.step (.connected peer)).2).foldl View.learn v = a.shown := by
  rw [inbox_connected nodup]
  funext item
  by_cases none : a.names = []
  · have unknown : item ∉ a.names := by simp [none]
    rw [if_neg fun both => both.2 none, List.foldl_nil, known item unknown, shown, if_neg unknown]
  · rw [if_pos ⟨rfl, none⟩, List.foldl_cons, List.foldl_nil, shown]
    have keys : (a.names.map fun item => (item, (a.value? item).getD unavailable)).map Prod.fst
        = a.names := by
      rw [List.map_map]
      exact List.map_id _
    split
    · rename_i listed
      exact View.learn_of_mem (keys.symm ▸ nodup) (List.mem_map.mpr ⟨item, listed, rfl⟩) v
    · rename_i unknown
      rw [View.learn_of_notMem (keys.symm ▸ unknown), known item unknown]

/-! ## Boundaries -/

/-- Whoever gets a record is connected then. -/
theorem connected_of_record {r : Record} (member : .record r ∈ inbox client (a.step e).2) :
    client ∈ (a.step e).1.streams := by
  have among := mem_inbox.mp member
  have takes := step_takes a e
  generalize a.step e = result at takes among ⊢
  cases takes with
  | sends due =>
    rw [sendChanges] at among
    dsimp only at among
    split at among
    · exact absurd among List.not_mem_nil
    · obtain ⟨other, here, same⟩ := List.mem_map.mp among
      exact (Delivery.mk.inj same).1 ▸ List.mem_map_of_mem here
  | @joins peer =>
    rw [streams_connect]
    rw [step, inbox_connect] at member
    split at member
    · rename_i newcomer
      exact List.mem_append_right _ (List.mem_singleton.mpr newcomer.1)
    · exact absurd member List.not_mem_nil
  | answers reads decoded ping found => cases List.mem_singleton.mp among
  | waits | ignores | breaks | leaves | gone => exact absurd among List.not_mem_nil

/-- Whenever no transaction is open, every client sees the values that the adapter has then. -/
theorem viewOf_of_closed (sound : Sound items a) (idle : a.gathering = false)
    (outside : client ∉ a.streams) (closed : bracketAfter es = some false)
    (here : client ∈ (a.after es).streams) : a.viewOf client es = (a.after es).shown := by
  have reached := sound.after es
  have settled := reached.idle (gathering_of_bracketAfter idle closed)
  exact (follows_viewOf sound outside es).eq_shown reached.nodup here settled

/-- The client joins within a transaction, and sees the state before it with the updates over that
    which the transaction has made so far. -/
structure JoinsAmid (items : List String) (heartbeat : Nat) (client : Nat) (es : List Event) (e : Event) :
    Prop where
  joins : ∃ peer, e = .connected peer
  newest : client = accepted es
  overlaid : ∃ before inside, es = before ++ .told .begin :: inside ∧
    bracketAfter before = some false ∧ .told .complete ∉ inside ∧
    ∀ item ∈ items, (start items heartbeat).viewOf client (es ++ [e]) item =
      some (writtenValue
        (((lastSet? item inside).or (((start items heartbeat).after before).value? item)).getD
          unavailable))

/-- While a transaction is open, the only record is the one at the start of a client. -/
theorem joinsAmid_of_open {heartbeat : Nat} (opened : bracketAfter (es ++ [e]) = some true) {r : Record}
    (member : .record r ∈ inbox client (((start items heartbeat).after es).step e).2) :
    JoinsAmid items heartbeat client es e := by
  have sound := sound_start items heartbeat
  have reached := sound.after es
  have outside : client ∉ (start items heartbeat).streams := List.not_mem_nil
  have follows := follows_viewOf sound outside es
  rw [bracketAfter_snoc] at opened
  obtain ⟨now, earlier, last⟩ := Option.bind_eq_some_iff.mp opened
  have gathers := gathering_of_bracketAfter (a := start items heartbeat) rfl earlier
  have early : ((start items heartbeat).after es).due e = false := not_due_of_open gathers last
  by_cases joins : ∃ peer, e = .connected peer
  · obtain ⟨peer, rfl⟩ := joins
    have among := member
    rw [inbox_connected reached.nodup] at among
    split at among
    · rename_i newcomer
      have newest := newcomer.1.trans (length_readers_after_start items heartbeat es)
      obtain rfl : now = true := Option.some.inj last
      obtain ⟨before, inside, rfl, closed, going⟩ := exists_begin_of_open earlier
      refine ⟨⟨peer, rfl⟩, newest, before, inside, rfl, closed, going, fun item known => ?_⟩
      have here : item ∈ items.eraseDups := List.mem_eraseDups.mpr known
      have listed : item ∈ ((start items heartbeat).after (before ++ .told .begin :: inside)).names :=
        reached.names ▸ here
      have value := value?_after (sound.after before) here (.told .begin :: inside)
      rw [viewOf_snoc, newcomer.1, learn_inbox_connect reached.nodup, shown, if_pos listed,
        after_append, value, lastSet?_begin]
      exact newcomer.1 ▸ follows.known
    · exact absurd among List.not_mem_nil
  · cases inbox_of_not_due early (fun peer same => joins ⟨peer, same⟩) member

/-- While the calls are in their places, every record brings its client to the state of the adapter
    at the end of a transaction or between two of them, but for the one at the start of a client
    that joins within a transaction. At the end of that one the client sees the state too. -/
theorem record_at_boundary (items : List String) (heartbeat client : Nat)
    (es : List Event) (e : Event) (placed : (bracketAfter (es ++ [e])).isSome) :
    (∀ r, .record r ∈ inbox client (((start items heartbeat).after es).step e).2 →
      (bracketAfter (es ++ [e]) = some false ∧
        (start items heartbeat).viewOf client (es ++ [e])
          = ((start items heartbeat).after (es ++ [e])).shown) ∨
      (bracketAfter (es ++ [e]) = some true ∧ JoinsAmid items heartbeat client es e)) ∧
    (bracketAfter (es ++ [e]) = some false → present client (es ++ [e]) = true →
      (start items heartbeat).viewOf client (es ++ [e])
        = ((start items heartbeat).after (es ++ [e])).shown) := by
  have sound := sound_start items heartbeat
  have outside : client ∉ (start items heartbeat).streams := List.not_mem_nil
  refine ⟨fun r member => ?_, fun closed here => ?_⟩
  · obtain ⟨opened, now⟩ := Option.isSome_iff_exists.mp placed
    cases opened with
    | false =>
      have here := connected_of_record member
      rw [← after_one, ← after_append] at here
      exact .inl ⟨now, viewOf_of_closed sound rfl outside now here⟩
    | true => exact .inr ⟨now, joinsAmid_of_open now member⟩
  · exact viewOf_of_closed sound rfl outside closed
      ((mem_streams_after_start items heartbeat client _).mpr here)

/-- A client that joins within a transaction of two updates sees the first of them, and sees both
    once the transaction is complete. -/
theorem record_at_boundary_amid :
    (bracketAfter ([.told .begin, .told (.set "path" "P1")] ++ [.connected "127.0.0.1:40000"])).isSome ∧
      JoinsAmid ["path", "mode"] 10000 0 [.told .begin, .told (.set "path" "P1")]
        (.connected "127.0.0.1:40000") ∧
      (start ["path", "mode"] 10000).viewOf 0 [.told .begin, .told (.set "path" "P1"),
        .connected "127.0.0.1:40000", .told (.set "mode" "AUTO"), .told .complete] "mode"
          = some "AUTO" := by
  have placed : (bracketAfter
      ([.told .begin, .told (.set "path" "P1")] ++ [.connected "127.0.0.1:40000"])).isSome := by decide
  refine ⟨placed, ?_, ?_⟩
  · have records := (record_at_boundary ["path", "mode"] 10000 0
      [.told .begin, .told (.set "path" "P1")] (.connected "127.0.0.1:40000") placed).1
    rcases records [("path", "P1"), ("mode", "UNAVAILABLE")] (by decide) with ⟨closed, -⟩ | ⟨-, amid⟩
    · exact absurd closed (by decide)
    · exact amid
  · have ends := (record_at_boundary ["path", "mode"] 10000 0 [.told .begin,
      .told (.set "path" "P1"), .connected "127.0.0.1:40000", .told (.set "mode" "AUTO")]
      (.told .complete) (by decide)).2 (by decide) (by decide)
    exact (congrFun ends "mode").trans (by decide)

/-- What a client sees after the events is the state after some first part of the run that leaves no
    transaction open. -/
def AtBoundary (a : Adapter) (client : Nat) (es run : List Event) : Prop :=
  ∃ before later, run = before ++ later ∧ bracketAfter before = some false ∧
    a.viewOf client es = (a.after before).shown

/-- The record for a client that joins within a transaction shows one of its updates and not the
    other, which is the state at no boundary, neither before nor behind. -/
theorem not_atBoundary_of_joining_amid :
    bracketAfter [.told .begin, .told (.set "path" "P1"), .connected "127.0.0.1:40000",
        .told (.set "mode" "AUTO"), .told .complete] = some false ∧
      .record [("path", "P1"), ("mode", "UNAVAILABLE")] ∈ inbox 0
        (((start ["path", "mode"] 10000).after [.told .begin, .told (.set "path" "P1")]).step
          (.connected "127.0.0.1:40000")).2 ∧
      ¬ (start ["path", "mode"] 10000).AtBoundary 0
          [.told .begin, .told (.set "path" "P1"), .connected "127.0.0.1:40000"]
          [.told .begin, .told (.set "path" "P1"), .connected "127.0.0.1:40000", .told (.set "mode" "AUTO"),
            .told .complete] := by
  refine ⟨by decide, by decide, ?_⟩
  rintro ⟨before, later, split, closed, view⟩
  have part : before ∈ List.inits [.told .begin, .told (.set "path" "P1"), .connected "127.0.0.1:40000",
      .told (.set "mode" "AUTO"), .told .complete] :=
    (List.mem_inits _ _).mpr ⟨later, split.symm⟩
  have path := congrFun view "path"
  have mode := congrFun view "mode"
  have only : ∀ before ∈ List.inits [Event.told .begin, .told (.set "path" "P1"), .connected "127.0.0.1:40000",
      .told (.set "mode" "AUTO"), .told .complete], bracketAfter before = some false →
      ((start ["path", "mode"] 10000).after before).shown "path" ≠ some "P1" ∨
        ((start ["path", "mode"] 10000).after before).shown "mode" ≠ some "UNAVAILABLE" := by
    decide
  rcases only before part closed with other | other
  · exact other (path.symm.trans (by decide))
  · exact other (mode.symm.trans (by decide))

end ActionBridge.Shdr.Adapter
