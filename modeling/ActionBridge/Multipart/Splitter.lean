import ActionBridge.Fault
import ActionBridge.Outcome
import ActionBridge.Text.Blank

/-!
# Parts of a stream

A multipart stream is cut at its delimiter lines. A part begins with headers up to a blank
line. If they announce a length, the body is as many bytes, whatever they are; otherwise it
runs up to the next delimiter or closing line. Every part that is read leaves fewer bytes,
so a stream has finitely many.
-/
namespace ActionBridge.Multipart

/-! ## Lines -/

def lineFeed : UInt8 := 10

def isLineBreak (b : UInt8) : Bool := b == lineFeed || b == 13

/-- Bytes that do not count at the end of a line. -/
def isLineSpace (b : UInt8) : Bool := isLineBreak b || b == 32 || b == 9

/-- The first line with its line feed, and what follows. The last line may have none. -/
def cutLine : List UInt8 → List UInt8 × List UInt8
  | [] => ([], [])
  | b :: rest =>
    if b == lineFeed then ([b], rest)
    else
      let cut := cutLine rest
      (b :: cut.1, cut.2)

/-- Nothing is lost at the cut. -/
theorem cutLine_append (bytes : List UInt8) : (cutLine bytes).1 ++ (cutLine bytes).2 = bytes := by
  induction bytes with
  | nil => rfl
  | cons b rest ih => by_cases h : (b == lineFeed) = true <;> simp [cutLine, h, ih]

theorem length_cutLine_le (bytes : List UInt8) : (cutLine bytes).2.length ≤ bytes.length := by
  have h := congrArg List.length (cutLine_append bytes)
  rw [List.length_append] at h
  omega

/-- The rest is shorter if there is anything to cut. -/
theorem length_cutLine_lt {bytes : List UInt8} (h : bytes ≠ []) :
    (cutLine bytes).2.length < bytes.length := by
  match bytes, h with
  | b :: rest, _ =>
    have := length_cutLine_le rest
    by_cases hb : (b == lineFeed) = true
    · simp [cutLine, hb]
    · simp only [cutLine, hb, Bool.false_eq_true, ↓reduceIte, List.length_cons]
      omega

/-- What a line means between parts and in a body without length. -/
inductive LineKind where
  /-- a part begins -/
  | delimiter
  /-- no part follows -/
  | closing
  | other
  deriving Repr, DecidableEq

/-- The line without the space at its end. -/
def lineText (line : List UInt8) : List UInt8 := Text.dropEndWhile isLineSpace line

/-- The two dashes that end a closing line. -/
def dashes : List UInt8 := [45, 45]

/-- The kind of a line. A line that begins like a delimiter and ends in two dashes closes the
    stream, whatever stands between. -/
def LineKind.of (delimiter line : List UInt8) : LineKind :=
  let t := lineText line
  if t = delimiter then .delimiter
  else if delimiter.isPrefixOf t && dashes.isSuffixOf t then .closing
  else .other

/-! ## Reading lines -/

/-- No more bytes than these can be addressed, however large the memory is. -/
def addressable : Nat := Nat.pow 2 63

/-- How a stream is read. -/
structure Framing where
  /-- the delimiter lines; without one the whole stream is one part -/
  delimiter : Option (List UInt8)
  /-- the error on which the stream breaks off where its bytes end -/
  failure : Option String := none
  /-- bodies of this length and of greater ones cannot be allocated -/
  memory : Nat := addressable
  deriving Repr, DecidableEq

/-- Bodies of this length and of greater ones cannot be held: they cannot be allocated, or not even
    addressed. -/
def Framing.room (f : Framing) : Nat := min f.memory addressable

/-- The delimiter of a boundary. -/
def delimiterOf (boundary : String) : List UInt8 := Utf8.bytesOf ("--" ++ boundary)

/-- What there is where a line is expected. -/
inductive NextLine where
  | line (line rest : List UInt8)
  | ended
  | broken (reason : String)
  deriving Repr, DecidableEq

/-- Reads a line. A line is not had before its line feed or the end of the stream. -/
def nextLine (failure : Option String) (bytes : List UInt8) : NextLine :=
  match failure with
  | none => if bytes.isEmpty then .ended else .line (cutLine bytes).1 (cutLine bytes).2
  | some reason =>
    if bytes.contains lineFeed then .line (cutLine bytes).1 (cutLine bytes).2
    else .broken reason

theorem length_of_nextLine {failure : Option String} {bytes line rest : List UInt8}
    (h : nextLine failure bytes = .line line rest) : rest.length < bytes.length := by
  have hne : bytes ≠ [] := by
    rintro rfl
    cases failure <;> simp [nextLine] at h
  have hrest : rest = (cutLine bytes).2 := by
    cases failure <;> simp only [nextLine] at h <;> split at h <;> simp_all
  rw [hrest]
  exact length_cutLine_lt hne

/-! ## Between parts -/

/-- What follows the next delimiter line, if there is one before a closing line. -/
def seek (failure : Option String) (delimiter bytes : List UInt8) :
    Except TransportFault (Option (List UInt8)) :=
  match _h : nextLine failure bytes with
  | .broken reason => .error (.read reason)
  | .ended => .ok none
  | .line line rest =>
    match LineKind.of delimiter line with
    | .delimiter => .ok (some rest)
    | .closing => .ok none
    | .other => seek failure delimiter rest
termination_by bytes.length
decreasing_by exact length_of_nextLine _h

theorem length_of_seek {failure : Option String} {delimiter bytes rest : List UInt8}
    (h : seek failure delimiter bytes = .ok (some rest)) : rest.length < bytes.length := by
  fun_induction seek failure delimiter bytes with
  | case1 => simp at h
  | case2 => simp at h
  | case3 bytes line after hline =>
    simp only [Except.ok.injEq, Option.some.injEq] at h
    exact h ▸ length_of_nextLine hline
  | case4 => simp at h
  | case5 bytes line after hline _ ih =>
    have := length_of_nextLine hline
    have := ih h
    omega

/-! ## Headers -/

/-- The announced length after one more header. Only the last header counts, and one that
    holds no number announces nothing. -/
def lengthAfter (length : Option Nat) (header : List UInt8) : Option Nat :=
  match Text.splitFirst ':' (Utf8.decodeLenient header).toList with
  | none => length
  | some (name, value) =>
    if Text.sameLetters (Text.trim (String.ofList name)) "content-length" then
      Decimal.unsigned? 64 (Text.trim (String.ofList value))
    else length

/-- The announced length and what follows the blank line, if there is one. -/
def headers (failure : Option String) (length : Option Nat) (bytes : List UInt8) :
    Except TransportFault (Option (Option Nat × List UInt8)) :=
  match _h : nextLine failure bytes with
  | .broken reason => .error (.read reason)
  | .ended => .ok none
  | .line line rest =>
    if lineText line = [] then .ok (some (length, rest))
    else headers failure (lengthAfter length (lineText line)) rest
termination_by bytes.length
decreasing_by exact length_of_nextLine _h

theorem length_of_headers {failure : Option String} {length announced : Option Nat}
    {bytes rest : List UInt8}
    (h : headers failure length bytes = .ok (some (announced, rest))) :
    rest.length < bytes.length := by
  fun_induction headers failure length bytes with
  | case1 => simp at h
  | case2 => simp at h
  | case3 length bytes line after hline _ =>
    simp only [Except.ok.injEq, Option.some.injEq, Prod.mk.injEq] at h
    exact h.2 ▸ length_of_nextLine hline
  | case4 length bytes line after hline _ ih =>
    have := length_of_nextLine hline
    have := ih h
    omega

/-! ## Bodies -/

/-- Where the reading of a stream stands. -/
inductive Phase where
  /-- before the next delimiter line -/
  | seeking
  /-- behind a delimiter line -/
  | opened
  /-- no part follows -/
  | finished
  deriving Repr, DecidableEq

/-- A stream of which some parts are read. -/
structure Splitter where
  phase : Phase
  rest : List UInt8
  deriving Repr, DecidableEq

/-- Reads a body of the given length. It is allocated before its first byte is read. -/
def sizedBody (memory : Nat) (failure : Option String) (length : Nat) (bytes : List UInt8) :
    Outcome TransportFault (List UInt8 × Splitter) :=
  if addressable ≤ length then .crash (.panic "capacity overflow")
  else if memory ≤ length then .crash (.abort length)
  else if bytes.length < length then
    .error (.truncated length (failure.getD "failed to fill whole buffer"))
  else .ok (bytes.take length, ⟨.seeking, bytes.drop length⟩)

/-- A body that can be held is read, or is cut short. -/
theorem sizedBody_of_lt {memory length : Nat} (held : length < min memory addressable)
    (failure : Option String) (bytes : List UInt8) :
    sizedBody memory failure length bytes =
      if bytes.length < length then
        .error (.truncated length (failure.getD "failed to fill whole buffer"))
      else .ok (bytes.take length, ⟨.seeking, bytes.drop length⟩) := by
  rw [sizedBody, if_neg (by omega), if_neg (by omega)]

/-- A body that is read is the first bytes, as many as announced. -/
theorem eq_of_sizedBody {memory length : Nat} {failure : Option String}
    {bytes content : List UInt8} {after : Splitter}
    (h : sizedBody memory failure length bytes = .ok (content, after)) :
    length ≤ bytes.length ∧ content = bytes.take length ∧ after = ⟨.seeking, bytes.drop length⟩ := by
  unfold sizedBody at h
  split at h
  · cases h
  split at h
  · cases h
  split at h
  · cases h
  · next enough =>
    cases h
    exact ⟨Nat.le_of_not_lt enough, rfl, rfl⟩

/-- The lines up to the next delimiter or closing line. -/
def bodyLines (failure : Option String) (delimiter bytes : List UInt8) :
    Except TransportFault (List UInt8 × Splitter) :=
  match _h : nextLine failure bytes with
  | .broken reason => .error (.read reason)
  | .ended => .ok ([], ⟨.seeking, []⟩)
  | .line line rest =>
    match LineKind.of delimiter line with
    | .delimiter => .ok ([], ⟨.opened, rest⟩)
    | .closing => .ok ([], ⟨.finished, rest⟩)
    | .other =>
      (bodyLines failure delimiter rest).map fun (body, after) => (line ++ body, after)
termination_by bytes.length
decreasing_by exact length_of_nextLine _h

theorem length_of_bodyLines {failure : Option String} {delimiter bytes body : List UInt8}
    {after : Splitter} (h : bodyLines failure delimiter bytes = .ok (body, after)) :
    after.rest.length ≤ bytes.length := by
  fun_induction bodyLines failure delimiter bytes generalizing body after with
  | case1 => simp at h
  | case2 => simp only [Except.ok.injEq, Prod.mk.injEq] at h; simp [← h.2]
  | case3 bytes line rest hline =>
    simp only [Except.ok.injEq, Prod.mk.injEq] at h
    exact h.2 ▸ Nat.le_of_lt (length_of_nextLine hline)
  | case4 bytes line rest hline =>
    simp only [Except.ok.injEq, Prod.mk.injEq] at h
    exact h.2 ▸ Nat.le_of_lt (length_of_nextLine hline)
  | case5 bytes line rest hline _ ih =>
    cases hrest : bodyLines failure delimiter rest with
    | error e => simp [hrest, Except.map] at h
    | ok p =>
      obtain ⟨lines, later⟩ := p
      simp only [hrest, Except.map, Except.ok.injEq, Prod.mk.injEq] at h
      have := length_of_nextLine hline
      have := ih hrest
      rw [← h.2]
      omega

/-- Reads a body without length; line breaks at its end do not count. -/
def openBody (failure : Option String) (delimiter bytes : List UInt8) :
    Except TransportFault (List UInt8 × Splitter) :=
  (bodyLines failure delimiter bytes).map fun (body, after) =>
    (Text.dropEndWhile isLineBreak body, after)

/-! ## Parts -/

/-- What one step finds, and the stream afterwards. -/
structure Found where
  outcome : Outcome TransportFault (Option (List UInt8))
  after : Splitter
  deriving Repr, DecidableEq

/-- The stream of which nothing more is read. -/
def Splitter.finish (s : Splitter) : Splitter := { s with phase := .finished }

/-- Reads the part that begins behind a delimiter line. -/
def partFrom (memory : Nat) (failure : Option String) (delimiter bytes : List UInt8) : Found :=
  match headers failure none bytes with
  | .error fault => ⟨.error fault, ⟨.finished, []⟩⟩
  | .ok none => ⟨.ok none, ⟨.finished, []⟩⟩
  | .ok (some (length, rest)) =>
    let body := match length with
      | some n => sizedBody memory failure n rest
      | none => .ofExcept (openBody failure delimiter rest)
    match body with
    | .ok (content, after) => ⟨.ok (some content), after⟩
    | .error fault => ⟨.error fault, ⟨.finished, []⟩⟩
    | .crash x => ⟨.crash x, ⟨.seeking, rest⟩⟩

/-- Takes all that is left as one part. -/
def readAll (failure : Option String) (bytes : List UInt8) : Found :=
  match failure with
  | some reason => ⟨.error (.read reason), ⟨.finished, []⟩⟩
  | none => ⟨.ok (if bytes.isEmpty then none else some bytes), ⟨.finished, []⟩⟩

/-- Reads the next part. Once there is none, or a fault, there is never one again. -/
def next (f : Framing) (s : Splitter) : Found :=
  match s.phase, f.delimiter with
  | .finished, _ => ⟨.ok none, s⟩
  | _, none => readAll f.failure s.rest
  | .opened, some delimiter => partFrom f.memory f.failure delimiter s.rest
  | .seeking, some delimiter =>
    match seek f.failure delimiter s.rest with
    | .error fault => ⟨.error fault, ⟨.finished, []⟩⟩
    | .ok none => ⟨.ok none, ⟨.finished, []⟩⟩
    | .ok (some rest) => partFrom f.memory f.failure delimiter rest

/-! ## The whole stream -/

/-- What is left of a stream: nothing when it is finished. -/
def Splitter.size (s : Splitter) : Nat :=
  if s.phase = .finished then 0 else s.rest.length + 1

theorem length_of_partFrom {memory : Nat} {failure : Option String}
    {delimiter bytes content : List UInt8}
    (h : (partFrom memory failure delimiter bytes).outcome = .ok (some content)) :
    (partFrom memory failure delimiter bytes).after.rest.length < bytes.length := by
  unfold partFrom at h ⊢
  cases hh : headers failure none bytes with
  | error fault => simp [hh] at h
  | ok found =>
    match found with
    | none => simp [hh] at h
    | some (length, rest) =>
      have hrest := length_of_headers hh
      cases length with
      | some n =>
        simp only [hh] at h ⊢
        cases hb : sizedBody memory failure n rest with
        | error fault => simp [hb] at h
        | crash x => simp [hb] at h
        | ok p =>
          obtain ⟨-, -, hp⟩ := eq_of_sizedBody hb
          simp only [hp, List.length_drop]
          omega
      | none =>
        simp only [hh, openBody] at h ⊢
        cases hl : bodyLines failure delimiter rest with
        | error fault => simp [hl, Except.map, Outcome.ofExcept] at h
        | ok p =>
          have := length_of_bodyLines hl
          simp only [Except.map, Outcome.ofExcept]
          omega

/-- A part that is read leaves less. -/
theorem size_next {f : Framing} {s : Splitter} {content : List UInt8}
    (h : (next f s).outcome = .ok (some content)) : (next f s).after.size < s.size := by
  obtain ⟨phase, rest⟩ := s
  obtain ⟨delimiter, failure, memory⟩ := f
  have readAll_finished : (readAll failure rest).after.size = 0 := by
    cases failure <;> rfl
  have le_of_lt {t : Splitter} {n : Nat} (ht : t.rest.length < n) : t.size < n + 1 := by
    unfold Splitter.size
    split <;> omega
  cases phase <;> cases delimiter <;> simp only [next] at h ⊢
  case seeking.none => rw [readAll_finished]; simp [Splitter.size]
  case opened.none => rw [readAll_finished]; simp [Splitter.size]
  case finished.none => simp at h
  case finished.some => simp at h
  case opened.some => exact le_of_lt (length_of_partFrom h)
  case seeking.some delimiter =>
    cases hs : seek failure delimiter rest with
    | error fault => simp [hs] at h
    | ok found =>
      match found with
      | none => simp [hs] at h
      | some after =>
        simp only [hs] at h ⊢
        exact le_of_lt (Nat.lt_trans (length_of_partFrom h) (length_of_seek hs))

/-- The parts of a stream, and how it ends. -/
structure Split where
  chunks : List (List UInt8)
  ending : Outcome TransportFault Unit
  deriving Repr, DecidableEq

/-- Reads parts up to the end of the stream. -/
def splitFrom (f : Framing) (s : Splitter) : Split :=
  match _h : (next f s).outcome with
  | .ok none => ⟨[], .ok ()⟩
  | .error fault => ⟨[], .error fault⟩
  | .crash x => ⟨[], .crash x⟩
  | .ok (some chunk) =>
    let later := splitFrom f (next f s).after
    ⟨chunk :: later.chunks, later.ending⟩
termination_by s.size
decreasing_by exact size_next _h

/-- The stream before its first part. -/
def Splitter.ofBytes (bytes : List UInt8) : Splitter := ⟨.seeking, bytes⟩

/-- The parts of all bytes of a stream. -/
def split (f : Framing) (bytes : List UInt8) : Split :=
  splitFrom f (.ofBytes bytes)

end ActionBridge.Multipart
