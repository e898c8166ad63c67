import ActionBridge.Shdr.Adapter
import Mathlib.Data.List.Nodup

/-!
# Clients and their connections

The numbers of clients are handed out once, and a connection on which lines are read knows the number
of its client (`Wired`). So no two clients have the same number or the same connection, and the client
that is found by the number of a connection is the one on it (`Wired.find?_eq`).
-/
namespace ActionBridge.Shdr.Adapter

/-- The connections of the clients. -/
def streams (a : Adapter) : List Nat := a.clients.map Client.connection

/-- Every client has a number of its own that was handed out, and the connections on which lines are
    read are those of the clients, and know their numbers. -/
structure Wired (a : Adapter) : Prop where
  ids : (a.clients.map Client.id).Nodup
  handedOut : ∀ c ∈ a.clients, c.id < a.nextClient
  known : ∀ c ∈ a.clients, a.reader? c.connection = some c.id
  read : ∀ n id, a.reader? n = some id → ∃ c ∈ a.clients, c.id = id ∧ c.connection = n

variable {a b : Adapter} {n id : Nat}

theorem wired_start (items : List String) (heartbeat : Nat) : Wired (start items heartbeat) where
  ids := List.nodup_nil
  handedOut _ member := absurd member List.not_mem_nil
  known _ member := absurd member List.not_mem_nil
  read _ _ reads := by cases reads

theorem Wired.mono (wired : a.Wired) (clients : b.clients = a.clients) (readers : b.readers = a.readers)
    (next : b.nextClient = a.nextClient) : b.Wired := by
  have reader (n : Nat) : b.reader? n = a.reader? n := by rw [reader?, readers, reader?]
  refine ⟨clients ▸ wired.ids, clients ▸ next ▸ wired.handedOut, fun c member => ?_, fun n id reads => ?_⟩
  · rw [reader]
    exact wired.known c (clients ▸ member)
  · rw [clients]
    exact wired.read n id (reader n ▸ reads)

/-! ## Which clients there are -/

theorem Wired.eq_of_id (wired : a.Wired) {c d : Client} (here : c ∈ a.clients) (there : d ∈ a.clients)
    (same : c.id = d.id) : c = d :=
  List.inj_on_of_nodup_map wired.ids here there same

theorem Wired.eq_of_connection (wired : a.Wired) {c d : Client} (here : c ∈ a.clients)
    (there : d ∈ a.clients) (same : c.connection = d.connection) : c = d := by
  have ids := (wired.known c here).symm.trans (same ▸ wired.known d there)
  exact wired.eq_of_id here there (Option.some.inj ids)

/-- No two clients have the same connection. -/
theorem Wired.nodup_streams (wired : a.Wired) : a.streams.Nodup :=
  wired.ids.of_map.map_on fun _ here _ there same => wired.eq_of_connection here there same

/-- The clients are on the connections on which lines are read. -/
theorem Wired.mem_streams_iff (wired : a.Wired) : n ∈ a.streams ↔ ∃ id, a.reader? n = some id := by
  constructor
  · intro member
    obtain ⟨c, here, rfl⟩ := List.mem_map.mp member
    exact ⟨c.id, wired.known c here⟩
  · rintro ⟨id, reads⟩
    obtain ⟨c, here, -, rfl⟩ := wired.read n id reads
    exact List.mem_map_of_mem here

/-- By the number that a connection knows its own client is found. -/
theorem Wired.find?_eq (wired : a.Wired) (reads : a.reader? n = some id) :
    ∃ c ∈ a.clients, c.connection = n ∧ a.clients.find? (·.id == id) = some c := by
  obtain ⟨c, here, same, at_⟩ := wired.read n id reads
  cases found : a.clients.find? (·.id == id) with
  | none => exact absurd (beq_iff_eq.mpr same) (List.find?_eq_none.mp found c here)
  | some d =>
    have there := List.mem_of_find?_eq_some found
    have named := List.find?_some (p := fun d : Client => d.id == id) found
    obtain rfl := wired.eq_of_id here there (same.trans (beq_iff_eq.mp named).symm)
    exact ⟨c, here, at_, rfl⟩

/-! ## Coming and going -/

theorem reader?_eq_none_of_le (beyond : a.readers.length ≤ n) : a.reader? n = none := by
  rw [reader?, List.getElem?_eq_none beyond]
  rfl

theorem reader?_connect (a : Adapter) (peer : String) (n : Nat) :
    (a.connect peer).1.reader? n = if n = a.readers.length then some a.nextClient else a.reader? n := by
  unfold connect reader?
  dsimp only
  by_cases last : n = a.readers.length
  · rw [if_pos last, last, List.getElem?_concat_length]
    rfl
  · rw [if_neg last]
    by_cases before : n < a.readers.length
    · rw [List.getElem?_append_left before]
    · rw [List.getElem?_eq_none (by simp; omega), List.getElem?_eq_none (by omega)]

theorem reader?_leave (a : Adapter) (n id k : Nat) :
    (a.leave n id).reader? k = if k = n then none else a.reader? k := by
  unfold leave reader?
  dsimp only
  by_cases same : k = n
  · rw [if_pos same, same, List.getElem?_set_self']
    cases a.readers[n]? <;> rfl
  · rw [if_neg same, List.getElem?_set_ne (Ne.symm same)]

/-- The newcomer has a number and a connection that nobody had before. -/
theorem Wired.connect (wired : a.Wired) (peer : String) : (a.connect peer).1.Wired := by
  have clients : (a.connect peer).1.clients
      = a.clients ++ [⟨a.nextClient, peer, a.readers.length⟩] := rfl
  have next : (a.connect peer).1.nextClient = a.nextClient + 1 := rfl
  have older : ∀ c ∈ a.clients, c.connection ≠ a.readers.length := fun c here last => by
    have reads := wired.known c here
    rw [last, reader?_eq_none_of_le (Nat.le_refl _)] at reads
    cases reads
  refine ⟨?_, fun c here => ?_, fun c here => ?_, fun n id reads => ?_⟩
  · rw [clients, List.map_append, List.map_singleton, ← List.concat_eq_append]
    refine wired.ids.concat fun member => ?_
    obtain ⟨c, here, same⟩ := List.mem_map.mp member
    exact Nat.lt_irrefl _ (same ▸ wired.handedOut c here)
  · rw [next]
    rcases List.mem_append.mp (clients ▸ here) with older | newcomer
    · exact Nat.lt_succ_of_lt (wired.handedOut c older)
    · rw [List.mem_singleton.mp newcomer]
      exact Nat.lt_succ_self _
  · rw [reader?_connect]
    rcases List.mem_append.mp (clients ▸ here) with known | newcomer
    · rw [if_neg (older c known)]
      exact wired.known c known
    · rw [List.mem_singleton.mp newcomer, if_pos rfl]
  · rw [reader?_connect] at reads
    rw [clients]
    split at reads
    · next last =>
      exact ⟨_, List.mem_append_right _ List.mem_cons_self, Option.some.inj reads, last.symm⟩
    · obtain ⟨c, here, same⟩ := wired.read n id reads
      exact ⟨c, List.mem_append_left _ here, same⟩

theorem mem_leave {c : Client} : c ∈ (a.leave n id).clients ↔ c ∈ a.clients ∧ c.id ≠ id := by
  rw [leave, List.mem_filter, bne_iff_ne]

/-- Who leaves takes along its own connection and no other. -/
theorem Wired.leave (wired : a.Wired) (reads : a.reader? n = some id) : (a.leave n id).Wired := by
  obtain ⟨gone, there, named, at_⟩ := wired.read n id reads
  refine ⟨wired.ids.sublist (List.filter_sublist.map _), fun c member => ?_, fun c member => ?_,
    fun k other reads' => ?_⟩
  · exact wired.handedOut c (mem_leave.mp member).1
  · obtain ⟨here, differs⟩ := mem_leave.mp member
    have elsewhere : c.connection ≠ n := fun same =>
      differs (wired.eq_of_connection here there (same.trans at_.symm) ▸ named)
    rw [reader?_leave, if_neg elsewhere]
    exact wired.known c here
  · rw [reader?_leave] at reads'
    split at reads'
    · cases reads'
    · next elsewhere =>
      obtain ⟨c, here, same, on⟩ := wired.read k other reads'
      have differs : c.id ≠ id := fun same =>
        elsewhere (on.symm.trans (wired.eq_of_id here there (same.trans named.symm) ▸ at_))
      exact ⟨c, mem_leave.mpr ⟨here, differs⟩, same, on⟩

theorem streams_connect (a : Adapter) (peer : String) :
    (a.connect peer).1.streams = a.streams ++ [a.readers.length] := by
  rw [streams, connect, List.map_append, List.map_singleton, streams]

/-- Behind a departure the other connections are there, and no more. -/
theorem Wired.mem_streams_leave (wired : a.Wired) (reads : a.reader? n = some id) {k : Nat} :
    k ∈ (a.leave n id).streams ↔ k ∈ a.streams ∧ k ≠ n := by
  rw [(wired.leave reads).mem_streams_iff, wired.mem_streams_iff, reader?_leave]
  by_cases same : k = n <;> simp [same]

theorem Wired.lt_of_mem_streams (wired : a.Wired) (member : n ∈ a.streams) : n < a.readers.length := by
  obtain ⟨id, reads⟩ := wired.mem_streams_iff.mp member
  refine Nat.lt_of_not_le fun beyond => ?_
  rw [reader?_eq_none_of_le beyond] at reads
  cases reads

end ActionBridge.Shdr.Adapter
