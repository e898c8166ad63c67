import ActionBridge.Multipart.Splitter

/-!
# Ends of streams

The lengths that a stream announces on the way to its end (`Announces`). Reading it crashes at one
that cannot be held, and nowhere else. It fails where no more can be read, or inside a
part that announced a longer one (`ofStream_of_error`).
-/
namespace ActionBridge.Multipart

variable {f : Framing} {s : Splitter} {x : Crash}

/-! ## Crashes -/

/-- A part begins, and `rest` is behind its delimiter line. -/
inductive Begins (f : Framing) : Splitter → List UInt8 → Prop
  | opened {delimiter rest : List UInt8} (framed : f.delimiter = some delimiter) :
      Begins f ⟨.opened, rest⟩ rest
  | sought {delimiter bytes rest : List UInt8} (framed : f.delimiter = some delimiter)
      (found : seek f.failure delimiter bytes = .ok (some rest)) : Begins f ⟨.seeking, bytes⟩ rest

/-- One of the parts that are still to be read announces a length. -/
inductive Announces (f : Framing) : Splitter → Nat → Prop
  | here {s : Splitter} {bytes rest : List UInt8} {n : Nat} (begins : Begins f s bytes)
      (read : headers f.failure none bytes = .ok (some (some n, rest))) : Announces f s n
  | later {s : Splitter} {chunk : List UInt8} {n : Nat} (taken : (next f s).outcome = .ok (some chunk))
      (announces : Announces f (next f s).after n) : Announces f s n

/-- How the reading crashes at a length that cannot be held. -/
def crashAt (n : Nat) : Crash :=
  if addressable ≤ n then .panic "capacity overflow" else .abort n

theorem sizedBody_of_le {memory length : Nat} (long : min memory addressable ≤ length)
    (failure : Option String) (bytes : List UInt8) :
    sizedBody memory failure length bytes = .crash (crashAt length) := by
  unfold sizedBody crashAt
  by_cases beyond : addressable ≤ length
  · rw [if_pos beyond, if_pos beyond]
  · rw [if_neg beyond, if_neg beyond, if_pos (by omega)]

theorem eq_of_sizedBody_crash {memory length : Nat} {failure : Option String} {bytes : List UInt8}
    (crash : sizedBody memory failure length bytes = .crash x) :
    min memory addressable ≤ length ∧ x = crashAt length := by
  by_cases held : length < min memory addressable
  · rw [sizedBody_of_lt held] at crash
    split at crash <;> cases crash
  · have long := Nat.le_of_not_lt held
    rw [sizedBody_of_le long] at crash
    exact ⟨long, (Outcome.crash.inj crash).symm⟩

theorem exists_of_partFrom_crash {memory : Nat} {failure : Option String} {delimiter bytes : List UInt8}
    (crash : (partFrom memory failure delimiter bytes).outcome = .crash x) :
    ∃ n rest, headers failure none bytes = .ok (some (some n, rest)) ∧
      min memory addressable ≤ n ∧ x = crashAt n := by
  unfold partFrom at crash
  rcases read : headers failure none bytes with fault | - | ⟨- | n, rest⟩
  · simp [read] at crash
  · simp [read] at crash
  · cases body : openBody failure delimiter rest <;> simp [read, body, Outcome.ofExcept] at crash
  · cases body : sizedBody memory failure n rest with
    | ok taken => simp [read, body] at crash
    | error fault => simp [read, body] at crash
    | crash y =>
      simp only [read, body, Outcome.crash.injEq] at crash
      exact ⟨n, rest, rfl, eq_of_sizedBody_crash (crash ▸ body)⟩

theorem exists_announces_of_next_crash (crash : (next f s).outcome = .crash x) :
    ∃ n, Announces f s n ∧ f.room ≤ n ∧ x = crashAt n := by
  obtain ⟨phase, bytes⟩ := s
  -- Without delimiter lines there are no headers that could announce anything.
  have whole : (readAll f.failure bytes).outcome ≠ .crash x := by
    unfold readAll
    split <;> simp
  unfold next at crash
  rcases framed : f.delimiter with - | delimiter <;> cases phase <;> simp only [framed] at crash
  case none.seeking => exact absurd crash whole
  case none.opened => exact absurd crash whole
  case none.finished => cases crash
  case some.finished => cases crash
  case some.opened =>
    obtain ⟨n, rest, read, long⟩ := exists_of_partFrom_crash crash
    exact ⟨n, .here (.opened framed) read, long⟩
  case some.seeking =>
    rcases found : seek f.failure delimiter bytes with fault | - | rest
    · simp [found] at crash
    · simp [found] at crash
    · simp only [found] at crash
      obtain ⟨n, _, read, long⟩ := exists_of_partFrom_crash crash
      exact ⟨n, .here (.sought framed found) read, long⟩

/-- Where all lengths can be held the reading of a stream ends with success or an error. -/
theorem exists_announces_of_crash (crash : (splitFrom f s).ending = .crash x) :
    ∃ n, Announces f s n ∧ f.room ≤ n ∧ x = crashAt n := by
  fun_induction splitFrom f s with
  | case1 | case2 => cases crash
  | case3 s y ended => exact exists_announces_of_next_crash (ended.trans (congrArg _ (Outcome.crash.inj crash)))
  | case4 s chunk taken later ih =>
    obtain ⟨n, announces, long⟩ := ih crash
    exact ⟨n, .later taken announces, long⟩

/-! ## Faults -/

/-- The faults of a stream that is read. -/
def OfStream : TransportFault → Prop
  | .read _ | .truncated .. => True
  | .fetch .. | .reported _ | .document _ => False

section Faults

variable {memory : Nat} {failure : Option String} {delimiter bytes : List UInt8} {fault : TransportFault}

theorem ofStream_of_seek (failed : seek failure delimiter bytes = .error fault) : OfStream fault := by
  fun_induction seek failure delimiter bytes with
  | case1 => exact Except.error.inj failed ▸ trivial
  | case2 | case3 | case4 => cases failed
  | case5 bytes line rest read other ih => exact ih failed

theorem ofStream_of_headers {length : Option Nat} (failed : headers failure length bytes = .error fault) :
    OfStream fault := by
  fun_induction headers failure length bytes with
  | case1 => exact Except.error.inj failed ▸ trivial
  | case2 | case3 => cases failed
  | case4 length bytes line rest read shown ih => exact ih failed

theorem ofStream_of_bodyLines (failed : bodyLines failure delimiter bytes = .error fault) :
    OfStream fault := by
  fun_induction bodyLines failure delimiter bytes with
  | case1 => exact Except.error.inj failed ▸ trivial
  | case2 | case3 | case4 => cases failed
  | case5 bytes line rest read other ih =>
    cases later : bodyLines failure delimiter rest with
    | ok taken => simp [later, Except.map] at failed
    | error fault' =>
      rw [later] at failed
      exact ih (later.trans failed)

theorem ofStream_of_sizedBody {length : Nat} (failed : sizedBody memory failure length bytes = .error fault) :
    OfStream fault := by
  unfold sizedBody at failed
  split at failed
  · cases failed
  split at failed
  · cases failed
  split at failed
  · exact Outcome.error.inj failed ▸ trivial
  · cases failed

theorem ofStream_of_partFrom (failed : (partFrom memory failure delimiter bytes).outcome = .error fault) :
    OfStream fault := by
  unfold partFrom at failed
  rcases read : headers failure none bytes with fault' | - | ⟨- | n, rest⟩ <;> simp only [read] at failed
  · exact Outcome.error.inj failed ▸ ofStream_of_headers read
  · cases failed
  · cases lines : bodyLines failure delimiter rest with
    | ok taken => simp [openBody, lines, Except.map, Outcome.ofExcept] at failed
    | error fault' =>
      simp only [openBody, lines, Except.map, Outcome.ofExcept] at failed
      exact Outcome.error.inj failed ▸ ofStream_of_bodyLines lines
  · cases body : sizedBody memory failure n rest with
    | ok taken => simp [body] at failed
    | crash y => simp [body] at failed
    | error fault' =>
      rw [body] at failed
      exact Outcome.error.inj failed ▸ ofStream_of_sizedBody body

theorem ofStream_of_next (failed : (next f s).outcome = .error fault) : OfStream fault := by
  obtain ⟨phase, bytes⟩ := s
  obtain ⟨delimiter, failure, memory⟩ := f
  have whole (failed : (readAll failure bytes).outcome = .error fault) : OfStream fault := by
    cases failure with
    | none => cases failed
    | some reason => exact Outcome.error.inj failed ▸ trivial
  cases phase <;> cases delimiter <;> simp only [next] at failed
  case finished.none | finished.some => cases failed
  case seeking.none | opened.none => exact whole failed
  case opened.some => exact ofStream_of_partFrom failed
  case seeking.some delimiter =>
    rcases found : seek failure delimiter bytes with fault' | - | rest <;> simp only [found] at failed
    · exact Outcome.error.inj failed ▸ ofStream_of_seek found
    · cases failed
    · exact ofStream_of_partFrom failed

end Faults

/-- A stream that ends with an error breaks off, between its parts or inside of one. -/
theorem ofStream_of_error {fault : TransportFault} (failed : (splitFrom f s).ending = .error fault) :
    OfStream fault := by
  fun_induction splitFrom f s with
  | case1 | case3 => cases failed
  | case2 s fault' ended => exact ofStream_of_next (ended.trans (congrArg _ (Outcome.error.inj failed)))
  | case4 s chunk taken later ih => exact ih failed

end ActionBridge.Multipart
