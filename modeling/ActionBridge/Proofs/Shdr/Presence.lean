import ActionBridge.Proofs.Shdr.Runs

/-!
# Who is there

Of a run only a part concerns the client of one connection: the calls on the sink, and what the client
does itself (`ownOf`). That part alone says whether the client is there (`present`), and the adapter
counts it then and not otherwise (`mem_streams_after_start`, `length_clients_after_start`).
-/
namespace ActionBridge.Shdr.Adapter

/-! ## The part of a run that concerns one client -/

/-- What concerns a client: a call on the sink, or something that the client does itself. -/
inductive Own where
  | told (call : SinkCall)
  | joins
  /-- sends a line -/
  | sends (line : List UInt8)
  | leaves
  deriving Repr, DecidableEq

/-- How many connections an event accepts. -/
def Event.accepts : Event → Nat
  | .connected _ => 1
  | _ => 0

/-- What an event is to the client of one connection, if it concerns that client at all, behind as many
    accepted connections. -/
def Event.own? (client accepted : Nat) : Event → Option Own
  | .told call => some (.told call)
  | .connected _ => if accepted = client then some .joins else none
  | .received other line => if other = client then some (.sends line) else none
  | .disconnected other => if other = client then some .leaves else none

/-- What concerns the client of one connection among events, in order, behind as many accepted
    connections. -/
def ownFrom (client : Nat) : (accepted : Nat) → List Event → List Own
  | _, [] => []
  | n, e :: es => (e.own? client n).toList ++ ownFrom client (n + e.accepts) es

/-- What concerns the client of one connection among the events of a run. -/
def ownOf (client : Nat) (es : List Event) : List Own := ownFrom client 0 es

/-- How many connections events accept. -/
def accepted : List Event → Nat
  | [] => 0
  | e :: es => e.accepts + accepted es

/-- Whether a client is there afterwards. A line that is no text ends the connection. -/
def Own.present : (here : Bool) → Own → Bool
  | here, .told _ => here
  | _, .joins => true
  | here, .sends line => here && (Utf8.decode line).isOk
  | _, .leaves => false

/-- Whether the client of one connection is there after the events of a run. -/
def present (client : Nat) (es : List Event) : Bool := (ownOf client es).foldl Own.present false

variable {a b : Adapter} {client : Nat} {e : Event} {out : List Delivery}

/-! ## One event -/

/-- Connections are numbered in the order in which they are accepted. -/
theorem Takes.length_readers (takes : Takes a e (b, out)) :
    b.readers.length = a.readers.length + e.accepts := by
  cases takes with
  | waits => exact congrArg List.length (readers_taken a _)
  | sends => exact congrArg List.length (readers_taken a _)
  | joins => exact List.length_append
  | answers | ignores | gone => rfl
  | breaks | leaves => exact List.length_set

theorem streams_call (a : Adapter) (call : SinkCall) : (a.call call).1.streams = a.streams := by
  rw [call_eq]
  split <;> exact streams_taken a call

/-- A line that is no text ends the connection on which it is read, and no line ends another one. -/
theorem mem_streams_receive (wired : a.Wired) (n client : Nat) (line : List UInt8) :
    client ∈ (a.receive n line).1.streams ↔
      client ∈ a.streams ∧ (n = client → (Utf8.decode line).isOk = true) := by
  have takes := receive_takes a n line
  generalize a.receive n line = result at takes ⊢
  cases takes with
  | answers reads decoded ping found =>
    have legible : (Utf8.decode line).isOk = true := by
      rw [decoded]
      rfl
    exact ⟨fun here => ⟨here, fun _ => legible⟩, And.left⟩
  | ignores idle =>
    refine ⟨fun here => ⟨here, ?_⟩, And.left⟩
    rintro rfl
    obtain ⟨id, reads⟩ := wired.mem_streams_iff.mp here
    obtain ⟨text, decoded, -⟩ := idle id reads
    rw [decoded]
    rfl
  | breaks reads ends =>
    have broken : (Utf8.decode line).isOk = false := by
      rcases ends with ⟨fault, decoded⟩ | none
      · rw [decoded]
        rfl
      · obtain ⟨c, -, -, found⟩ := wired.find?_eq reads
        cases none.symm.trans found
    rw [wired.mem_streams_leave reads, broken]
    simp [eq_comm]

theorem mem_streams_disconnect (wired : a.Wired) (n client : Nat) :
    client ∈ (a.disconnect n).streams ↔ client ∈ a.streams ∧ client ≠ n := by
  rw [disconnect]
  cases reads : a.reader? n with
  | some id => exact wired.mem_streams_leave reads
  | none =>
    refine ⟨fun here => ⟨here, ?_⟩, And.left⟩
    rintro rfl
    obtain ⟨id, known⟩ := wired.mem_streams_iff.mp here
    cases reads.symm.trans known

/-- Whether a client is there after an event is told by what the event is to it. -/
theorem present_of_step (wired : a.Wired) (client : Nat) (e : Event) :
    decide (client ∈ (a.step e).1.streams)
      = (e.own? client a.readers.length).toList.foldl Own.present (decide (client ∈ a.streams)) := by
  cases e with
  | told call => exact congrArg (fun ns => decide (client ∈ ns)) (streams_call a call)
  | connected peer =>
    rw [step, streams_connect]
    by_cases newcomer : a.readers.length = client
    · rw [Event.own?, if_pos newcomer, newcomer]
      exact decide_eq_true (List.mem_append_right _ List.mem_cons_self)
    · rw [Event.own?, if_neg newcomer]
      simp [Ne.symm newcomer]
  | received n line =>
    rw [step]
    by_cases same : n = client <;> simp [Event.own?, Own.present, mem_streams_receive wired, same]
  | disconnected n =>
    rw [step]
    by_cases same : n = client
    · simp [Event.own?, Own.present, mem_streams_disconnect wired, same]
    · simp [Event.own?, mem_streams_disconnect wired, same, Ne.symm same]

/-! ## Runs -/

theorem length_readers_after (a : Adapter) (es : List Event) :
    (a.after es).readers.length = a.readers.length + accepted es := by
  induction es generalizing a with
  | nil => rfl
  | cons e es ih =>
    have first : (a.step e).1.readers.length = a.readers.length + e.accepts :=
      (step_takes a e).length_readers
    rw [after_cons, ih, first, accepted, Nat.add_assoc]

theorem length_readers_after_start (items : List String) (heartbeat : Nat) (es : List Event) :
    ((start items heartbeat).after es).readers.length = accepted es :=
  (length_readers_after (start items heartbeat) es).trans (Nat.zero_add _)

theorem wired_after (wired : a.Wired) (es : List Event) : (a.after es).Wired := by
  induction es generalizing a with
  | nil => exact wired
  | cons e es ih => exact ih (wired.takes (step_takes a e))

theorem present_after (wired : a.Wired) (client : Nat) (es : List Event) :
    decide (client ∈ (a.after es).streams)
      = (ownFrom client a.readers.length es).foldl Own.present (decide (client ∈ a.streams)) := by
  induction es generalizing a with
  | nil => rfl
  | cons e es ih =>
    have takes : Takes a e ((a.step e).1, (a.step e).2) := step_takes a e
    rw [after_cons, ih (wired.takes takes), ownFrom, List.foldl_append, present_of_step wired,
      takes.length_readers]

/-- The adapter has the client of a connection exactly if that client is there. -/
theorem mem_streams_after_start (items : List String) (heartbeat client : Nat) (es : List Event) :
    client ∈ ((start items heartbeat).after es).streams ↔ present client es = true := by
  have outside : decide (client ∈ (start items heartbeat).streams) = false := rfl
  have first : (start items heartbeat).readers.length = 0 := rfl
  have told := present_after (wired_start items heartbeat) client es
  rw [outside, first] at told
  rw [present, ownOf, ← told, decide_eq_true_iff]

/-- The adapter has as many clients as there are connections whose clients are there. -/
theorem length_clients_after_start (items : List String) (heartbeat : Nat) (es : List Event) :
    ((start items heartbeat).after es).clients.length
      = ((List.range (accepted es)).filter (present · es)).length := by
  have wired := wired_after (wired_start items heartbeat) es
  have readers := length_readers_after_start items heartbeat es
  have same : ((start items heartbeat).after es).streams.Perm
      ((List.range (accepted es)).filter (present · es)) := by
    refine (List.perm_ext_iff_of_nodup wired.nodup_streams (List.nodup_range.filter _)).mpr fun n => ?_
    rw [List.mem_filter, List.mem_range, ← mem_streams_after_start items heartbeat]
    exact ⟨fun here => ⟨readers ▸ wired.lt_of_mem_streams here, here⟩, And.right⟩
  rw [← same.length_eq, streams, List.length_map]

end ActionBridge.Shdr.Adapter
