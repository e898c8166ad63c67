import ActionBridge.Proofs.Multipart.Cuts
import ActionBridge.Proofs.Multipart.Lengths

/-!
# Parts as slices of their stream

What is read of a stream stands in it. Each reader takes bytes from the front of what is left and
leaves an end of it (`suffix_of_seek`, `suffix_of_headers`, `split_of_bodyLines`), so that a part is a
stretch of bytes with some in front of it that were not read before (`split_of_next`). Hence the parts
of any bytes are stretches one behind the other, with one error behind them at most, and then there is
nothing (`yields_stretches`).
-/
namespace ActionBridge.Multipart

/-! ## What is left -/

section Readers

variable {memory : Nat} {failure : Option String} {delimiter bytes line rest : List UInt8}

theorem append_of_nextLine (read : nextLine failure bytes = .line line rest) : line ++ rest = bytes := by
  have cut : line = (cutLine bytes).1 ∧ rest = (cutLine bytes).2 := by
    cases failure <;> simp only [nextLine] at read <;> split at read <;> simp_all
  rw [cut.1, cut.2, cutLine_append]

theorem suffix_of_nextLine (read : nextLine failure bytes = .line line rest) : rest <:+ bytes :=
  ⟨line, append_of_nextLine read⟩

theorem suffix_of_seek (found : seek failure delimiter bytes = .ok (some rest)) : rest <:+ bytes := by
  fun_induction seek failure delimiter bytes with
  | case1 | case2 | case4 => cases found
  | case3 bytes line after read =>
    obtain rfl := Option.some.inj (Except.ok.inj found)
    exact suffix_of_nextLine read
  | case5 bytes line after read other ih => exact (ih found).trans (suffix_of_nextLine read)

theorem suffix_of_headers {length announced : Option Nat}
    (found : headers failure length bytes = .ok (some (announced, rest))) : rest <:+ bytes := by
  fun_induction headers failure length bytes with
  | case1 | case2 => cases found
  | case3 length bytes line after read empty =>
    obtain ⟨-, rfl⟩ := Prod.mk.inj (Option.some.inj (Except.ok.inj found))
    exact suffix_of_nextLine read
  | case4 length bytes line after read shown ih => exact (ih found).trans (suffix_of_nextLine read)

/-- The lines of a body are the front of what is left. -/
theorem split_of_bodyLines {body : List UInt8} {after : Splitter}
    (found : bodyLines failure delimiter bytes = .ok (body, after)) :
    ∃ tail, body ++ tail = bytes ∧ after.rest <:+ tail := by
  fun_induction bodyLines failure delimiter bytes generalizing body after with
  | case1 => cases found
  | case2 bytes =>
    obtain ⟨rfl, rfl⟩ := Prod.mk.inj (Except.ok.inj found)
    exact ⟨bytes, rfl, List.nil_suffix⟩
  | case3 bytes line rest read | case4 bytes line rest read =>
    obtain ⟨rfl, rfl⟩ := Prod.mk.inj (Except.ok.inj found)
    exact ⟨bytes, rfl, suffix_of_nextLine read⟩
  | case5 bytes line rest read other ih =>
    cases lines : bodyLines failure delimiter rest with
    | error fault => simp [lines, Except.map] at found
    | ok taken =>
      obtain ⟨later, left⟩ := taken
      obtain ⟨tail, split, suffix⟩ := ih lines
      simp only [lines, Except.map, Except.ok.injEq, Prod.mk.injEq] at found
      obtain ⟨rfl, rfl⟩ := found
      refine ⟨tail, ?_, suffix⟩
      rw [List.append_assoc, split, append_of_nextLine read]

theorem split_of_openBody {content : List UInt8} {after : Splitter}
    (found : openBody failure delimiter bytes = .ok (content, after)) :
    ∃ tail, content ++ tail = bytes ∧ after.rest <:+ tail := by
  cases lines : bodyLines failure delimiter bytes with
  | error fault => simp [openBody, lines, Except.map] at found
  | ok taken =>
    obtain ⟨body, left⟩ := taken
    obtain ⟨tail, split, suffix⟩ := split_of_bodyLines lines
    simp only [openBody, lines, Except.map, Except.ok.injEq, Prod.mk.injEq] at found
    obtain ⟨rfl, rfl⟩ := found
    -- The line breaks at the end of the body are left out of the part, and never read again.
    refine ⟨(body.reverse.takeWhile isLineBreak).reverse ++ tail, ?_, List.suffix_append_of_suffix suffix⟩
    rw [← List.append_assoc, Text.dropEndWhile_append, split]

theorem split_of_sizedBody {length : Nat} {content : List UInt8} {after : Splitter}
    (found : sizedBody memory failure length bytes = .ok (content, after)) :
    ∃ tail, content ++ tail = bytes ∧ after.rest <:+ tail := by
  obtain ⟨-, rfl, rfl⟩ := eq_of_sizedBody found
  exact ⟨bytes.drop length, List.take_append_drop length bytes, List.suffix_rfl⟩

/-- A part stands behind a byte that is not read again, and what is left stands behind the part. -/
theorem split_of_partFrom {content : List UInt8}
    (found : (partFrom memory failure delimiter bytes).outcome = .ok (some content)) :
    ∃ gap tail, gap ++ (content ++ tail) = bytes ∧ gap ≠ [] ∧
      (partFrom memory failure delimiter bytes).after.rest <:+ tail := by
  unfold partFrom at found ⊢
  rcases read : headers failure none bytes with fault | - | ⟨length, rest⟩
  · simp [read] at found
  · simp [read] at found
  obtain ⟨gap, behind⟩ := suffix_of_headers read
  have some : gap ≠ [] := by
    rintro rfl
    have shorter := length_of_headers read
    rw [← behind] at shorter
    exact absurd shorter (Nat.lt_irrefl _)
  have place {after : Splitter} (body : ∃ tail, content ++ tail = rest ∧ after.rest <:+ tail) :
      ∃ gap tail, gap ++ (content ++ tail) = bytes ∧ gap ≠ [] ∧ after.rest <:+ tail := by
    obtain ⟨tail, split, suffix⟩ := body
    exact ⟨gap, tail, by rw [split, behind], some, suffix⟩
  cases length with
  | some n =>
    cases body : sizedBody memory failure n rest with
    | error fault => simp [read, body] at found
    | crash x => simp [read, body] at found
    | ok taken =>
      obtain ⟨chunk, after⟩ := taken
      simp only [read, body, Outcome.ok.injEq, Option.some.injEq] at found ⊢
      obtain rfl := found
      exact place (split_of_sizedBody body)
  | none =>
    cases body : openBody failure delimiter rest with
    | error fault => simp [read, body, Outcome.ofExcept] at found
    | ok taken =>
      obtain ⟨chunk, after⟩ := taken
      simp only [read, body, Outcome.ofExcept, Outcome.ok.injEq, Option.some.injEq] at found ⊢
      obtain rfl := found
      exact place (split_of_openBody body)

theorem split_of_next {s : Splitter} {content : List UInt8}
    (found : (next ⟨some delimiter, failure, memory⟩ s).outcome = .ok (some content)) :
    ∃ gap tail, gap ++ (content ++ tail) = s.rest ∧ gap ≠ [] ∧
      (next ⟨some delimiter, failure, memory⟩ s).after.rest <:+ tail := by
  obtain ⟨phase, bytes⟩ := s
  cases phase with
  | finished => cases found
  | opened => exact split_of_partFrom found
  | seeking =>
    simp only [next] at found ⊢
    rcases sought : seek failure delimiter bytes with fault | - | rest <;> simp only [sought] at found ⊢
    · cases found
    · cases found
    · obtain ⟨before, behind⟩ := suffix_of_seek sought
      obtain ⟨gap, tail, split, some, suffix⟩ := split_of_partFrom found
      refine ⟨before ++ gap, tail, ?_, ?_, suffix⟩
      · rw [List.append_assoc, split, behind]
      · exact List.append_ne_nil_of_right_ne_nil before some

end Readers

/-! ## Stretches -/

/-- A stretch of bytes: how many stand in front of it, and how many it has. -/
structure Stretch where
  start : Nat
  length : Nat

def Stretch.stop (t : Stretch) : Nat := t.start + t.length

/-- The bytes of a stretch. -/
def Stretch.of (bytes : List UInt8) (t : Stretch) : List UInt8 := (bytes.drop t.start).take t.length

/-- The stretch of what stands between `gap` and `tail`. -/
theorem Stretch.of_append (gap content tail : List UInt8) :
    Stretch.of (gap ++ (content ++ tail)) ⟨gap.length, content.length⟩ = content := by
  rw [Stretch.of, List.drop_left, List.take_left]

/-- Behind the first `offset` bytes these chunks stand one behind the other, and between any two of
    them there is a byte of neither. -/
structure Lies (bytes : List UInt8) (offset : Nat) (chunks : List (List UInt8)) (ts : List Stretch) :
    Prop where
  chunks : ts.map (Stretch.of bytes) = chunks
  apart : ts.Pairwise fun t u => t.stop < u.start
  behind : ∀ t ∈ ts, offset < t.start
  inside : ∀ t ∈ ts, t.stop ≤ bytes.length

section Chunks

variable {bytes : List UInt8} {f : Framing} {s : Splitter}

theorem lies_nil (bytes : List UInt8) (offset : Nat) : Lies bytes offset [] [] :=
  ⟨rfl, .nil, nofun, nofun⟩

theorem Lies.cons {offset : Nat} {t : Stretch} {chunks : List (List UInt8)} {ts : List Stretch}
    (later : Lies bytes t.stop chunks ts) (behind : offset < t.start) (inside : t.stop ≤ bytes.length) :
    Lies bytes offset (t.of bytes :: chunks) (t :: ts) where
  chunks := congrArg (t.of bytes :: ·) later.chunks
  apart := .cons later.behind later.apart
  behind := List.forall_mem_cons.mpr ⟨behind, fun u member => by
    have := later.behind u member
    unfold Stretch.stop at this
    omega⟩
  inside := List.forall_mem_cons.mpr ⟨inside, later.inside⟩

theorem Lies.mono {offset earlier : Nat} {chunks : List (List UInt8)} {ts : List Stretch}
    (lies : Lies bytes offset chunks ts) (le : earlier ≤ offset) : Lies bytes earlier chunks ts :=
  { lies with behind := fun t member => Nat.lt_of_le_of_lt le (lies.behind t member) }

/-- The parts that are still to be read lie in what is left. -/
theorem exists_lies (delimiter : List UInt8) (failure : Option String) (memory : Nat)
    (left : s.rest <:+ bytes) :
    ∃ ts, Lies bytes (bytes.length - s.rest.length)
      (splitFrom ⟨some delimiter, failure, memory⟩ s).chunks ts := by
  fun_induction splitFrom ⟨some delimiter, failure, memory⟩ s with
  | case1 s ended | case2 s fault ended | case3 s x ended => exact ⟨[], lies_nil _ _⟩
  | case4 s chunk taken later ih =>
    obtain ⟨gap, tail, split, some, suffix⟩ := split_of_next taken
    obtain ⟨front, whole⟩ := left
    have placed : (front ++ gap) ++ (chunk ++ tail) = bytes := by rw [List.append_assoc, split, whole]
    obtain ⟨ts, lies⟩ := ih (suffix.trans ⟨front ++ gap ++ chunk, by rw [List.append_assoc, placed]⟩)
    have total := congrArg List.length placed
    have rest := congrArg List.length split
    have short := suffix.length_le
    have gaps : 0 < gap.length := List.length_pos_iff.mpr some
    simp only [List.length_append] at total rest
    let t : Stretch := ⟨(front ++ gap).length, chunk.length⟩
    have bytesOf : t.of bytes = chunk := placed ▸ Stretch.of_append (front ++ gap) chunk tail
    have stop : t.stop = front.length + gap.length + chunk.length := by simp [t, Stretch.stop]
    refine ⟨t :: ts, bytesOf ▸ (lies.mono ?_).cons ?_ ?_⟩
    · omega
    · simp only [t, List.length_append]
      omega
    · omega

end Chunks

/-! ## Calls -/

section Calls

variable {f : Framing} {s : Splitter}

/-- Behind a call that gives no part, or an error, no call gives anything. -/
theorem item_after {k : Nat} (last : item f s k = .ok none ∨ ∃ fault, item f s k = .error fault)
    {j : Nat} (later : k < j) : item f s j = .ok none := by
  induction k generalizing s j with
  | zero =>
    obtain ⟨j, rfl⟩ := Nat.exists_eq_succ_of_ne_zero (Nat.ne_of_gt later)
    exact yields_after last j
  | succ k ih =>
    obtain ⟨j, rfl⟩ := Nat.exists_eq_succ_of_ne_zero (Nat.ne_of_gt (Nat.lt_of_le_of_lt (Nat.zero_le _) later))
    exact ih last (Nat.lt_of_succ_lt_succ later)

/-- The error on which the reading of a stream ends, if it ends on one. -/
def Split.fault? (split : Split) : Option TransportFault :=
  match split.ending with
  | .error fault => some fault
  | _ => none

/-- The first calls give these items in order. -/
def Starts (f : Framing) (s : Splitter)
    (items : List (Outcome TransportFault (Option (List UInt8)))) : Prop :=
  ∀ k outcome, items[k]? = some outcome → item f s k = outcome

theorem starts_singleton {outcome : Outcome TransportFault (Option (List UInt8))}
    (found : (next f s).outcome = outcome) : Starts f s [outcome] := by
  intro k given here
  cases k with
  | zero => exact found.trans (Option.some.inj here)
  | succ k => cases here

theorem Starts.cons {outcome : Outcome TransportFault (Option (List UInt8))} {after : Splitter}
    {items : List (Outcome TransportFault (Option (List UInt8)))} (found : next f s = ⟨outcome, after⟩)
    (later : Starts f after items) : Starts f s (outcome :: items) := by
  intro k given here
  cases k with
  | zero => exact (congrArg Found.outcome found).trans (Option.some.inj here)
  | succ k => exact (congrArg (item f ·.after k) found).trans (later k given here)

/-- A reading gives its parts, and then its error and nothing more, or it crashes at a length that
    cannot be held. -/
theorem yields_or_starts (f : Framing) (s : Splitter) :
    Yields f s ((splitFrom f s).chunks.map (fun chunk => .ok (some chunk))
        ++ (splitFrom f s).fault?.toList.map .error) ∨
      ∃ n, Announces f s n ∧ f.room ≤ n ∧
        Starts f s ((splitFrom f s).chunks.map (fun chunk => .ok (some chunk)) ++ [.crash (crashAt n)]) := by
  fun_induction splitFrom f s with
  | case1 s ended => exact .inl (yields_nil ended)
  | case2 s fault ended => exact .inl (yields_error ended)
  | case3 s x ended =>
    obtain ⟨n, announces, long, rfl⟩ := exists_announces_of_next_crash ended
    exact .inr ⟨n, announces, long, starts_singleton ended⟩
  | case4 s chunk taken later ih =>
    have found : next f s = ⟨.ok (some chunk), (next f s).after⟩ := congrArg (Found.mk · _) taken
    rcases ih with all | ⟨n, announces, long, starts⟩
    · exact .inl (.cons found all)
    · exact .inr ⟨n, .later taken announces, long, .cons found starts⟩

/-- Without delimiter lines there is one part at most, which is the whole stream. -/
theorem chunks_of_whole (failure : Option String) (memory : Nat) (bytes : List UInt8) :
    (splitFrom ⟨none, failure, memory⟩ ⟨.seeking, bytes⟩).chunks = [] ∨
      (splitFrom ⟨none, failure, memory⟩ ⟨.seeking, bytes⟩).chunks = [bytes] := by
  have ended (rest : List UInt8) : (splitFrom ⟨none, failure, memory⟩ ⟨.finished, rest⟩).chunks = [] := by
    rw [splitFrom]
    rfl
  rw [splitFrom]
  split
  · exact .inl rfl
  · exact .inl rfl
  · exact .inl rfl
  · rename_i chunk taken
    refine .inr ?_
    cases failure with
    | some reason => cases taken
    | none =>
      simp only [next, readAll, Outcome.ok.injEq] at taken ⊢
      split at taken
      · cases taken
      · rw [ended, Option.some.inj taken]

end Calls

/-- Any bytes are read to an end, if no length is announced that cannot be addressed; where one cannot
    be allocated the program is aborted behind the parts in front of it. The parts are stretches of the
    bytes, in order and apart from each other; behind them there is one error at most, and from the
    first call on that gives an error or no part there is nothing. -/
theorem yields_stretches (f : Framing) (bytes : List UInt8)
    (addressed : ∀ n, Announces f (.ofBytes bytes) n → n < addressable) :
    ∃ (ts : List Stretch) (fault : Option TransportFault),
      (Yields f (.ofBytes bytes)
          (ts.map (fun t => .ok (some (t.of bytes))) ++ fault.toList.map .error) ∨
        ∃ n, Announces f (.ofBytes bytes) n ∧ f.memory ≤ n ∧
          Starts f (.ofBytes bytes) (ts.map (fun t => .ok (some (t.of bytes))) ++ [.crash (.abort n)])) ∧
      ts.Pairwise (fun t u => t.stop < u.start) ∧ (∀ t ∈ ts, t.stop ≤ bytes.length) ∧
      ∀ k, (item f (.ofBytes bytes) k = .ok none ∨
          ∃ fault, item f (.ofBytes bytes) k = .error fault) →
        ∀ j, k < j → item f (.ofBytes bytes) j = .ok none := by
  have ended := yields_or_starts f (.ofBytes bytes)
  suffices placed : ∃ ts : List Stretch, ts.map (Stretch.of bytes) = (splitFrom f (.ofBytes bytes)).chunks ∧
      ts.Pairwise (fun t u => t.stop < u.start) ∧ ∀ t ∈ ts, t.stop ≤ bytes.length by
    obtain ⟨ts, chunks, apart, inside⟩ := placed
    refine ⟨ts, (splitFrom f (.ofBytes bytes)).fault?, ?_, apart, inside, fun k last j later =>
      item_after last later⟩
    rw [← chunks, List.map_map] at ended
    refine ended.imp_right fun ⟨n, announces, long, starts⟩ => ?_
    have near := addressed n announces
    rw [crashAt, if_neg (Nat.not_le_of_lt near)] at starts
    have beyond : f.memory ≤ n := by
      unfold Framing.room at long
      omega
    exact ⟨n, announces, beyond, starts⟩
  obtain ⟨delimiter, failure, memory⟩ := f
  cases delimiter with
  | some delimiter =>
    have left : (Splitter.ofBytes bytes).rest <:+ bytes := List.suffix_rfl
    obtain ⟨ts, lies⟩ := exists_lies delimiter failure memory left
    exact ⟨ts, lies.chunks, lies.apart, lies.inside⟩
  | none =>
    rcases chunks_of_whole failure memory bytes with chunks | chunks
    · exact ⟨[], chunks.symm, .nil, nofun⟩
    · refine ⟨[⟨0, bytes.length⟩], ?_, List.pairwise_singleton _ _, ?_⟩
      · rw [Splitter.ofBytes, chunks, List.map_singleton, Stretch.of, List.drop_zero, List.take_length]
      · simp [Stretch.stop]

/-- A stream that breaks off in its second part, which the delimiter line behind the first one begins. -/
theorem yields_stretches_broken :
    let f : Framing := ⟨some (delimiterOf "B"), some "reset", 1024⟩
    let bytes := Utf8.bytesOf "--B\n\na\n--B\nContent-Length: 9\n\nb"
    (∀ n, Announces f (.ofBytes bytes) n → n < addressable) ∧
      ∃ (ts : List Stretch) (fault : Option TransportFault),
        Yields f (.ofBytes bytes)
          (ts.map (fun t => .ok (some (t.of bytes))) ++ fault.toList.map .error) := by
  intro f bytes
  let second : Splitter := ⟨.opened, Utf8.bytesOf "Content-Length: 9\n\nb"⟩
  have found : next f (.ofBytes bytes) = ⟨.ok (some [97]), second⟩ := by decide +kernel
  have broken : (next f second).outcome = .error (.truncated 9 "reset") := by decide +kernel
  have sought : seek f.failure (delimiterOf "B") bytes
      = .ok (some (Utf8.bytesOf "\na\n--B\nContent-Length: 9\n\nb")) := by decide +kernel
  have unannounced : headers f.failure none (Utf8.bytesOf "\na\n--B\nContent-Length: 9\n\nb")
      = .ok (some (none, Utf8.bytesOf "a\n--B\nContent-Length: 9\n\nb")) := by decide +kernel
  have announced : headers f.failure none second.rest = .ok (some (some 9, [98])) := by decide +kernel
  have nine : ∀ n, Announces f (.ofBytes bytes) n → n = 9 := by
    rintro n (⟨begins, read⟩ | ⟨taken, announces⟩)
    · cases begins with
      | sought framed here =>
        obtain rfl := Option.some.inj framed
        obtain rfl := Option.some.inj (Except.ok.inj (sought.symm.trans here))
        cases unannounced.symm.trans read
    · rw [found] at announces
      rcases announces with ⟨begins, read⟩ | ⟨taken, announces⟩
      · cases begins
        cases announced.symm.trans read
        rfl
      · cases broken.symm.trans taken
  have addressed : ∀ n, Announces f (.ofBytes bytes) n → n < addressable := fun n announces =>
    nine n announces ▸ by decide
  obtain ⟨ts, fault, yields | ⟨n, announces, beyond, -⟩, -⟩ := yields_stretches f bytes addressed
  · exact ⟨addressed, ts, fault, yields⟩
  · exact absurd (nine n announces ▸ beyond) (by decide)

end ActionBridge.Multipart
