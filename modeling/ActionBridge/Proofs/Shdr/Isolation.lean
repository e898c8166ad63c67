import ActionBridge.Proofs.Shdr.Follows
import ActionBridge.Proofs.Shdr.Presence
import Mathlib.Data.List.TakeWhile

/-!
# Clients apart

The part of a run that concerns the client of one connection (`ownOf`) decides what the client is sent
(`hears`) and whether it is there, whatever other clients do meanwhile and whichever numbers the client
and its connection have (`start_isolates`).
-/
namespace ActionBridge.Shdr.Adapter

/-! ## What a client hears -/

/-- A text that asks for a sign of life: behind any space it starts with the word for that. -/
def Pings (text : String) : Prop :=
  ∃ blanks rest, (∀ c ∈ blanks, Text.isBlank c = true) ∧ text.toList = blanks ++ ("* PING".toList ++ rest)

theorem isPing_iff {text : String} : isPing text = true ↔ Pings text := by
  rw [isPing, List.isPrefixOf_iff_prefix]
  constructor
  · rintro ⟨rest, begins⟩
    refine ⟨text.toList.takeWhile Text.isBlank, rest, fun c => List.mem_takeWhile_imp, ?_⟩
    rw [begins, List.takeWhile_append_dropWhile]
  · rintro ⟨blanks, rest, blank, begins⟩
    rw [begins, List.dropWhile_append_of_pos blank]
    exact ⟨rest, (List.dropWhile_cons_of_neg (by decide)).symm⟩

instance : DecidablePred Pings := fun _ => decidable_of_iff _ isPing_iff

/-- What a client is sent when it joins: all values, if there are data items at all. -/
def greeting (a : Adapter) : List Message :=
  if a.items.isEmpty then [] else [.record a.fullRecord]

/-- What every client is sent at a call: the changes, if they are due and there are any. -/
def update (a : Adapter) (call : SinkCall) : List Message :=
  if a.flushes call = true ∧ (a.taken call).changes ≠ [] then [.record (a.taken call).changes] else []

/-- The answer to a line: one to a ping, and none to anything else. -/
def reply (heartbeat : Nat) (line : List UInt8) : List Message :=
  match Utf8.decode line with
  | .ok text => if Pings text then [.pong heartbeat] else []
  | .error _ => []

/-- What a client hears that is there before, or is not. -/
def hearing (heartbeat : Nat) (a : Adapter) : (here : Bool) → Own → List Message
  | true, .told call => a.update call
  | false, .joins => a.greeting
  | true, .sends line => reply heartbeat line
  | _, _ => []

/-- The adapter afterwards. What a client does changes no data item. -/
def Own.after (a : Adapter) : Own → Adapter
  | .told call => (a.call call).1
  | _ => a

/-- All that a client hears, one after the other. -/
def hears (heartbeat : Nat) (a : Adapter) (here : Bool) : List Own → List Message
  | [] => []
  | o :: os => hearing heartbeat a here o ++ hears heartbeat (o.after a) (o.present here) os

variable {a b : Adapter} {client : Nat} {e : Event} {out : List Delivery}

theorem hears_append (heartbeat : Nat) (a : Adapter) (here : Bool) (os later : List Own) :
    hears heartbeat a here (os ++ later) = hears heartbeat a here os
      ++ hears heartbeat (os.foldl Own.after a) (os.foldl Own.present here) later := by
  induction os generalizing a here with
  | nil => rfl
  | cons o os ih =>
    rw [List.cons_append, hears, hears, ih, List.append_assoc, List.foldl_cons, List.foldl_cons]

/-! ## The adapter without its clients -/

/-- The adapter as it is for the data items: without its clients and their numbers. -/
def alone (a : Adapter) : Adapter := { a with clients := [], nextClient := 0, readers := [] }

theorem alone_taken (a : Adapter) (call : SinkCall) : (a.taken call).alone = a.alone.taken call := by
  cases call with
  | begin => rfl
  | complete => rfl
  | set item value =>
    have same : Assoc.get? item a.alone.items = Assoc.get? item a.items := rfl
    rw [taken, taken, assigned, assigned, same]
    cases Assoc.get? item a.items <;> rfl

theorem flushes_alone (a : Adapter) (call : SinkCall) : a.alone.flushes call = a.flushes call := by
  cases call <;> rfl

/-- Calls change the data items in the same way whoever is connected. -/
theorem alone_call (a : Adapter) (call : SinkCall) : (a.call call).1.alone = (a.alone.call call).1 := by
  rw [call_eq, call_eq, flushes_alone, ← alone_taken]
  cases a.flushes call <;> rfl

theorem update_alone (a : Adapter) (call : SinkCall) : a.alone.update call = a.update call := by
  have same : (a.alone.taken call).changes = (a.taken call).changes := by
    rw [← alone_taken]
    rfl
  rw [update, update, flushes_alone, same]

/-! ## One event -/

/-- A call reaches whoever is there as an update. -/
theorem inbox_call (wired : a.Wired) (client : Nat) (call : SinkCall) :
    inbox client (a.call call).2 = if client ∈ a.streams then a.update call else [] := by
  rw [call_eq, update]
  by_cases due : a.flushes call = true
  · have heard := inbox_sendChanges (wired.taken call) client
    rw [streams_taken] at heard
    rw [if_pos due, heard]
    by_cases here : client ∈ a.streams <;> simp [here, due]
  · simp [due, inbox]

/-- A line is answered to the client that sends it, if that one is there, and to nobody else. -/
theorem inbox_receive (wired : a.Wired) (n client : Nat) (line : List UInt8) :
    inbox client (a.receive n line).2
      = if n = client ∧ n ∈ a.streams then reply a.heartbeat line else [] := by
  have takes := receive_takes a n line
  generalize a.receive n line = result at takes ⊢
  cases takes with
  | @answers _ id _ text other reads decoded ping found =>
    have here : n ∈ a.streams := wired.mem_streams_iff.mpr ⟨id, reads⟩
    have answer : reply a.heartbeat line = [.pong a.heartbeat] := by
      simp [reply, decoded, isPing_iff.mp ping]
    -- The client that is found by the number is the one whose line it is.
    obtain ⟨c, -, rfl, known⟩ := wired.find?_eq reads
    obtain rfl : other = c := Option.some.inj (found.symm.trans known)
    rw [inbox_singleton, answer]
    simp [here]
  | ignores idle =>
    by_cases here : n ∈ a.streams
    · obtain ⟨id, reads⟩ := wired.mem_streams_iff.mp here
      obtain ⟨text, decoded, quiet⟩ := idle id reads
      have other : ¬ Pings text := fun ping => by simp [isPing_iff.mpr ping] at quiet
      simp [reply, decoded, other, inbox]
    · exact (if_neg fun both => here both.2).symm
  | breaks reads ends =>
    have silent : reply a.heartbeat line = [] := by
      rcases ends with ⟨fault, decoded⟩ | lost
      · simp [reply, decoded]
      · obtain ⟨c, -, -, known⟩ := wired.find?_eq reads
        cases lost.symm.trans known
    rw [silent, ite_self]
    rfl

/-- What clients do changes nothing but who is there. -/
theorem Takes.alone_eq (takes : Takes a e (b, out)) (client : ∀ call, e ≠ .told call) :
    b.alone = a.alone := by
  cases takes with
  | waits early | sends due => exact absurd rfl (client _)
  | joins | answers | ignores | breaks | leaves | gone => rfl

/-- What another client does is nothing to this one. -/
theorem foreign_of_step (wired : a.Wired) (foreign : e.own? client a.readers.length = none) :
    inbox client (a.step e).2 = [] ∧ (a.step e).1.alone = a.alone := by
  have other : ∀ call, e ≠ .told call := by
    rintro call rfl
    cases foreign
  have takes : Takes a e ((a.step e).1, (a.step e).2) := step_takes a e
  refine ⟨?_, takes.alone_eq other⟩
  cases e with
  | told call => exact absurd rfl (other call)
  | connected peer =>
    have differs : client ≠ a.readers.length := fun same => by simp [Event.own?, same] at foreign
    exact (inbox_connect a peer client).trans (if_neg fun both => differs both.1)
  | received n line =>
    have differs : n ≠ client := fun same => by simp [Event.own?, same] at foreign
    exact (inbox_receive wired n client line).trans (if_neg fun both => differs both.1)
  | disconnected n => rfl

/-- What a client does itself, and every call, comes to what the client hears of it by the adapter
    without its clients. -/
theorem own_of_step (wired : a.Wired) {o : Own} (own : e.own? client a.readers.length = some o) :
    inbox client (a.step e).2 = hearing a.heartbeat a.alone (decide (client ∈ a.streams)) o ∧
      (a.step e).1.alone = o.after a.alone := by
  cases e with
  | told call =>
    obtain rfl : Own.told call = o := Option.some.inj own
    refine ⟨(inbox_call wired client call).trans ?_, alone_call a call⟩
    by_cases here : client ∈ a.streams
    · rw [if_pos here, decide_eq_true here, hearing, update_alone]
    · rw [if_neg here, decide_eq_false here]
      rfl
  | connected peer =>
    obtain ⟨rfl, ⟨⟩⟩ := Option.ite_none_right_eq_some.mp own
    have outside : a.readers.length ∉ a.streams := fun here =>
      Nat.lt_irrefl _ (wired.lt_of_mem_streams here)
    have greets : a.alone.greeting = if a.items.isEmpty then [] else [.record a.fullRecord] := rfl
    refine ⟨(inbox_connect a peer a.readers.length).trans ?_, rfl⟩
    rw [decide_eq_false outside, hearing, greets]
    by_cases none : a.items = []
    · simp [none]
    · rw [if_pos ⟨rfl, none⟩, if_neg (none ∘ List.isEmpty_iff.mp)]
  | received n line =>
    obtain ⟨rfl, ⟨⟩⟩ := Option.ite_none_right_eq_some.mp own
    have takes : Takes a (.received n line) ((a.receive n line).1, (a.receive n line).2) :=
      receive_takes a n line
    refine ⟨(inbox_receive wired n n line).trans ?_, takes.alone_eq nofun⟩
    by_cases here : n ∈ a.streams
    · rw [if_pos ⟨rfl, here⟩, decide_eq_true here, hearing]
    · rw [if_neg fun both => here both.2, decide_eq_false here]
      rfl
  | disconnected n =>
    obtain ⟨rfl, ⟨⟩⟩ := Option.ite_none_right_eq_some.mp own
    have takes : Takes a (.disconnected n) (a.disconnect n, []) := step_takes a (.disconnected n)
    refine ⟨?_, takes.alone_eq nofun⟩
    cases decide (n ∈ a.streams) <;> rfl

theorem hears_of_step (wired : a.Wired) (client : Nat) (e : Event) :
    inbox client (a.step e).2
        = hears a.heartbeat a.alone (decide (client ∈ a.streams)) (e.own? client a.readers.length).toList ∧
      (a.step e).1.alone = (e.own? client a.readers.length).toList.foldl Own.after a.alone := by
  cases own : e.own? client a.readers.length with
  | none => exact foreign_of_step wired own
  | some o =>
    obtain ⟨heard, items⟩ := own_of_step wired own
    exact ⟨heard.trans (List.append_nil _).symm, items⟩

/-! ## Whole runs -/

/-- Whatever has happened before, a client hears what concerns it. -/
theorem inbox_sent (wired : a.Wired) (client : Nat) (es : List Event) :
    inbox client (a.sent es)
      = hears a.heartbeat a.alone (decide (client ∈ a.streams)) (ownFrom client a.readers.length es) := by
  induction es generalizing a with
  | nil => rfl
  | cons e es ih =>
    -- The first event leaves the data items and the client's presence as what concerns it does, and
    -- from there the later events are heard by the same argument.
    have takes : Takes a e ((a.step e).1, (a.step e).2) := step_takes a e
    obtain ⟨heard, items⟩ := hears_of_step wired client e
    rw [sent_cons, inbox_append, heard, ih (wired.takes takes), takes.heartbeat, items,
      present_of_step wired, takes.length_readers, ← hears_append, ownFrom]

/-- What a client is sent is what it hears by the calls on the sink and by what it does itself: all
    values when it joins, from then on every update and one answer to each of its pings, and nothing
    once it has left or has sent a line that is no text. The adapter counts it once while it is there,
    and not otherwise, and all clients have numbers and connections of their own. So two runs that agree
    in what concerns a client are the same to it, whatever other clients do in them and whichever
    connection the client has in each. -/
theorem start_isolates (items : List String) (heartbeat client : Nat) (es : List Event) :
    inbox client ((start items heartbeat).sent es)
        = hears heartbeat (start items heartbeat) false (ownOf client es) ∧
      ((start items heartbeat).after es).streams.count client
        = (if present client es then 1 else 0) ∧
      ((start items heartbeat).after es).clients.length
        = ((List.range (accepted es)).filter (present · es)).length ∧
      ((start items heartbeat).after es).Wired ∧
      ∀ other es₁, ownOf other es₁ = ownOf client es →
        inbox other ((start items heartbeat).sent es₁) = inbox client ((start items heartbeat).sent es) ∧
          ((start items heartbeat).after es₁).streams.count other
            = ((start items heartbeat).after es).streams.count client := by
  have wired := wired_start items heartbeat
  have heard (client : Nat) (es : List Event) : inbox client ((start items heartbeat).sent es)
      = hears heartbeat (start items heartbeat) false (ownOf client es) :=
    inbox_sent wired client es
  have counted (client : Nat) (es : List Event) :
      ((start items heartbeat).after es).streams.count client = if present client es then 1 else 0 := by
    have there := mem_streams_after_start items heartbeat client es
    rw [(wired_after wired es).nodup_streams.count]
    simp only [there]
  refine ⟨heard client es, counted client es, length_clients_after_start items heartbeat es,
    wired_after wired es, fun other es₁ same => ?_⟩
  rw [heard, heard, counted, counted, present, present, same]
  exact ⟨rfl, rfl⟩

/-- A client among others hears the same as on the first connection and alone: all values, the update
    of the transaction, and one answer to its ping. -/
theorem start_isolates_crowded :
    let crowded : List Event := [.connected "127.0.0.1:40000", .connected "127.0.0.1:40001", .told .begin,
      .received 0 (Utf8.bytesOf "* PING"), .told (.set "path" "P1"), .disconnected 0,
      .told .complete, .received 1 (Utf8.bytesOf " * PING"), .received 0 [0x80]]
    let alone : List Event := [.connected "127.0.0.1:40002", .told .begin, .told (.set "path" "P1"),
      .told .complete, .received 0 (Utf8.bytesOf " * PING")]
    ownOf 0 alone = ownOf 1 crowded ∧
      inbox 0 ((start ["path"] 10000).sent alone)
        = [.record [("path", "UNAVAILABLE")], .record [("path", "P1")], .pong 10000] := by
  intro crowded alone
  have same : ownOf 0 alone = ownOf 1 crowded := by decide +kernel
  refine ⟨same, ?_⟩
  rw [((start_isolates ["path"] 10000 1 crowded).2.2.2.2 0 alone same).1]
  decide +kernel

end ActionBridge.Shdr.Adapter
