import ActionBridge.Proofs.Multipart.Cuts
import ActionBridge.Proofs.Multipart.Lengths

/-!
# Parts that are cut short

A part whose headers announce more bytes than follow them is an error, and the last thing that is read.
This holds of the lengths that the memory can hold. A greater one, which the headers may announce as
well, ends the reading before any byte of the body is looked at: with a panic if it cannot even be
addressed, and otherwise by aborting the program. Nothing else does (`truncated_of_short`,
`not_truncated_of_unaddressable`).
-/
namespace ActionBridge.Multipart

/-! ## Header lines -/

/-- The header lines of a part up to the blank line, and what follows that. -/
inductive HeaderLines (failure : Option String) :
    (bytes : List UInt8) → (lines : List (List UInt8)) → (rest : List UInt8) → Prop
  | blank {bytes line rest : List UInt8} (read : nextLine failure bytes = .line line rest)
      (empty : lineText line = []) : HeaderLines failure bytes [] rest
  | header {bytes line after rest : List UInt8} {lines : List (List UInt8)}
      (read : nextLine failure bytes = .line line after) (shown : lineText line ≠ [])
      (later : HeaderLines failure after lines rest) : HeaderLines failure bytes (line :: lines) rest

/-- The last header line for a length has the number `n`. -/
def LastLength (lines : List (List UInt8)) (n : Nat) : Prop :=
  ∃ before line after, lines = before ++ line :: after ∧ namesLength line = true ∧
    number? line = some n ∧ ∀ other ∈ after, namesLength other = false

/-- The next part of a stream has these header lines, and `rest` behind its blank line. -/
def PartAt (f : Framing) (s : Splitter) (lines : List (List UInt8)) (rest : List UInt8) : Prop :=
  ∃ bytes, Begins f s bytes ∧ HeaderLines f.failure bytes lines rest

section Headers

variable {failure : Option String} {bytes rest : List UInt8} {lines : List (List UInt8)} {n : Nat}

/-- The length that header lines announce behind others that announced `length`. -/
def lengthIn (length : Option Nat) (lines : List (List UInt8)) : Option Nat :=
  lines.foldl (fun length line => if namesLength line then number? line else length) length

theorem headers_of_headerLines (headed : HeaderLines failure bytes lines rest) (length : Option Nat) :
    headers failure length bytes = .ok (some (lengthIn length lines, rest)) := by
  induction headed generalizing length with
  | blank read empty => rw [headers_of_line read, if_pos empty, lengthIn, List.foldl_nil]
  | header read shown later ih =>
    rw [headers_of_line read, if_neg shown, ih, lengthAfter_lineText, lengthIn, lengthIn, List.foldl_cons]

theorem lengthIn_of_unnamed (unnamed : ∀ line ∈ lines, namesLength line = false) (length : Option Nat) :
    lengthIn length lines = length := by
  induction lines with
  | nil => rfl
  | cons line lines ih =>
    obtain ⟨here, later⟩ := List.forall_mem_cons.mp unnamed
    rw [lengthIn, List.foldl_cons, here]
    exact ih later

theorem lengthIn_of_lastLength (last : LastLength lines n) : lengthIn none lines = some n := by
  obtain ⟨before, line, after, rfl, names, number, unnamed⟩ := last
  have behind := lengthIn_of_unnamed unnamed (some n)
  rw [lengthIn] at behind ⊢
  rw [List.foldl_append, List.foldl_cons, if_pos names, number, behind]

end Headers

/-! ## Bodies -/

section Bodies

variable {f : Framing} {s : Splitter} {bytes rest : List UInt8} {n : Nat}

theorem exists_partFrom_of_begins (begins : Begins f s bytes) :
    ∃ delimiter, next f s = partFrom f.memory f.failure delimiter bytes := by
  obtain ⟨delimiter, failure, memory⟩ := f
  cases begins with
  | opened framed =>
    obtain rfl : delimiter = some _ := framed
    exact ⟨_, rfl⟩
  | @sought delimiter _ _ framed found =>
    obtain rfl : _ = some delimiter := framed
    exact ⟨delimiter, by simp only [next, found]⟩

theorem next_of_long (begins : Begins f s bytes)
    (read : headers f.failure none bytes = .ok (some (some n, rest))) (long : f.room ≤ n) :
    (next f s).outcome = .crash (crashAt n) := by
  obtain ⟨delimiter, same⟩ := exists_partFrom_of_begins begins
  rw [same, partFrom, read]
  simp only [sizedBody_of_le long]

theorem next_of_short (begins : Begins f s bytes)
    (read : headers f.failure none bytes = .ok (some (some n, rest))) (held : n < f.room)
    (short : rest.length < n) :
    (next f s).outcome = .error (.truncated n (f.failure.getD "failed to fill whole buffer")) := by
  obtain ⟨delimiter, same⟩ := exists_partFrom_of_begins begins
  rw [same, partFrom, read]
  simp only [sizedBody_of_lt held, if_pos short]

theorem exists_headers_of_partAt {lines : List (List UInt8)} (part : PartAt f s lines rest)
    (last : LastLength lines n) :
    ∃ bytes, Begins f s bytes ∧ headers f.failure none bytes = .ok (some (some n, rest)) := by
  obtain ⟨bytes, begins, headed⟩ := part
  have read := headers_of_headerLines headed none
  rw [lengthIn_of_lastLength last] at read
  exact ⟨bytes, begins, read⟩

theorem splitFrom_of_crash {x : Crash} (crash : (next f s).outcome = .crash x) :
    (splitFrom f s).ending = .crash x := by
  rw [splitFrom]
  split <;> simp_all

/-- A length that cannot be held crashes the reading wherever it is announced. -/
theorem crash_of_announces (announces : Announces f s n) (long : f.room ≤ n) :
    (splitFrom f s).ending = .crash (crashAt n) := by
  induction announces with
  | here begins read => exact splitFrom_of_crash (next_of_long begins read long)
  | later taken _ ih =>
    rw [splitFrom]
    split <;> simp_all

end Bodies

/-- The wording of the error of a part that is cut short. -/
theorem message_truncated (n : Nat) (reason : String) :
    (BridgeFault.transport (.truncated n reason)).message
      = "transport error: " ++ ("truncated part (" ++ toString n ++ " bytes): " ++ reason) := by
  have fault : (TransportFault.truncated n reason).message
      = "truncated part (" ++ toString n ++ " bytes): " ++ reason := by
    unfold TransportFault.message
    rfl
  rw [← fault]
  unfold BridgeFault.message
  rfl

theorem crashAt_of_le (beyond : addressable ≤ n) : crashAt n = .panic "capacity overflow" := if_pos beyond

theorem crashAt_of_lt (near : n < addressable) : crashAt n = .abort n := if_neg (Nat.not_le_of_lt near)

/-- Wherever a stream stands: if the headers of the next part announce more bytes than follow them the
    next call is an error that tells how many, and behind it there is nothing. Only the lengths that
    cannot be held are different: where one cannot be allocated the program is aborted, and where one
    cannot be addressed the call panics. The reading of a stream crashes at these alone. -/
theorem truncated_of_short (f : Framing) (s : Splitter) :
    (∀ lines rest n, PartAt f s lines rest → LastLength lines n →
      (n < f.room → rest.length < n → ∃ fault, Yields f s [.error fault] ∧
        (BridgeFault.transport fault).message = "transport error: " ++ ("truncated part (" ++ toString n
          ++ " bytes): " ++ f.failure.getD "failed to fill whole buffer")) ∧
      (f.memory ≤ n → n < addressable → (next f s).outcome = .crash (.abort n)) ∧
      (addressable ≤ n → (next f s).outcome = .crash (.panic "capacity overflow"))) ∧
    ((∃ x, (splitFrom f s).ending = .crash x) ↔ ∃ n, Announces f s n ∧ f.room ≤ n) := by
  constructor
  · intro lines rest n part last
    obtain ⟨bytes, begins, read⟩ := exists_headers_of_partAt part last
    have crash (long : f.room ≤ n) := next_of_long begins read long
    refine ⟨fun held short => ?_, fun beyond near => ?_, fun beyond => ?_⟩
    · exact ⟨_, yields_error (next_of_short begins read held short), message_truncated _ _⟩
    · exact crashAt_of_lt near ▸ crash (Nat.le_trans (Nat.min_le_left ..) beyond)
    · exact crashAt_of_le beyond ▸ crash (Nat.le_trans (Nat.min_le_right ..) beyond)
  · constructor
    · rintro ⟨x, crash⟩
      obtain ⟨n, announces, long, -⟩ := exists_announces_of_crash crash
      exact ⟨n, announces, long⟩
    · rintro ⟨n, announces, long⟩
      exact ⟨_, crash_of_announces announces long⟩

/-! ## Parts of which three bytes are left -/

theorem headerLines_append (hs : List Header) {blank : Line} (empty : lineText blank.text = [])
    (rest : List UInt8) :
    HeaderLines none (hs.flatMap (·.bytes) ++ (blank.bytes ++ rest)) (hs.map (·.bytes)) rest := by
  induction hs with
  | nil => exact .blank (nextLine_bytes blank rest) ((lineText_bytes blank).trans empty)
  | cons h hs ih =>
    rw [List.flatMap_cons, List.append_assoc]
    exact .header (nextLine_bytes h.toLine _) (lineText_bytes h.toLine ▸ h.shown) ih

theorem partAt_append (memory : Nat) {delimiter : List UInt8} (delimits : Delimits delimiter) (opening : LineEnd)
    (hs : List Header) (blank : Line) (empty : lineText blank.text = []) (rest : List UInt8) :
    PartAt ⟨some delimiter, none, memory⟩
      ⟨.seeking, (delimits.line opening).bytes ++ (hs.flatMap (·.bytes) ++ (blank.bytes ++ rest))⟩
      (hs.map (·.bytes)) rest := by
  refine ⟨_, .sought rfl ?_, headerLines_append hs empty rest⟩
  rw [seek_line, Delimits.line, kind_delimiter delimits]

def shortHeader (digits : String) : List UInt8 := Utf8.bytesOf ("Content-Length: " ++ digits ++ "\n")

/-- A stream of one part that announces as many bytes as `digits` say and has three. -/
def shortStream (digits : String) : List UInt8 :=
  Utf8.bytesOf "--B\n" ++ (shortHeader digits ++ Utf8.bytesOf "\nabc")

theorem partAt_shortStream (memory : Nat) (digits : String) (unbroken : '\n' ∉ digits.toList) :
    PartAt ⟨some (delimiterOf "B"), none, memory⟩ (.ofBytes (shortStream digits)) [shortHeader digits]
      (Utf8.bytesOf "abc") := by
  let b : Boundary :=
    ⟨"B", by decide, by decide, fun c last => by cases (last : some 'B' = some c); decide⟩
  let line : Line :=
    { text := Utf8.bytesOf ("Content-Length: " ++ digits)
      ending := .lf
      unbroken := fun member => by
        have broken := Utf8.mem_of_mem_bytesOf (by decide) member
        rw [String.toList_append, List.mem_append] at broken
        exact broken.elim (by decide) unbroken }
  have first : (67 : UInt8) ∈ line.text := by
    simp only [line, Utf8.bytesOf_append, List.mem_append]
    exact .inl (by decide)
  have shown : lineText line.text ≠ [] := fun blank =>
    absurd (lineText_eq_nil_iff.mp blank 67 first) (by decide)
  have stands := partAt_append memory b.delimits .lf [⟨line, shown⟩] ⟨[], .lf, by decide⟩ rfl
    (Utf8.bytesOf "abc")
  have header : line.bytes = shortHeader digits := by
    simp only [Line.bytes, line, shortHeader, Utf8.bytesOf_append]
    rfl
  have opening : (b.delimits.line .lf).bytes = Utf8.bytesOf "--B\n" := by decide +kernel
  have ending : (⟨[], .lf, by decide⟩ : Line).bytes ++ Utf8.bytesOf "abc" = Utf8.bytesOf "\nabc" := by
    decide +kernel
  have stream : (b.delimits.line .lf).bytes ++ ([(⟨line, shown⟩ : Header)].flatMap (·.bytes)
      ++ ((⟨[], .lf, by decide⟩ : Line).bytes ++ Utf8.bytesOf "abc")) = shortStream digits := by
    rw [List.flatMap_singleton, header, opening, ending, shortStream]
  rw [stream] at stands
  exact header ▸ stands

/-- A part that announces ten bytes and has three, where there is memory for them. -/
theorem truncated_of_short_ten : ∃ fault,
    Yields ⟨some (delimiterOf "B"), none, 1024⟩ (.ofBytes (shortStream "10")) [.error fault] ∧
      (BridgeFault.transport fault).message
        = "transport error: truncated part (10 bytes): failed to fill whole buffer" := by
  obtain ⟨parts, -⟩ := truncated_of_short ⟨some (delimiterOf "B"), none, 1024⟩ (.ofBytes (shortStream "10"))
  have last : LastLength [shortHeader "10"] 10 :=
    ⟨[], _, [], rfl, by decide +kernel, by decide +kernel, nofun⟩
  exact (parts _ _ 10 (partAt_shortStream 1024 "10" (by decide)) last).1 (by decide) (by decide)

/-- A length of 64 bits may be announced, and its part be cut short, without an error, however large the
    memory is. -/
theorem not_truncated_of_unaddressable :
    ¬ ∃ memory, ∀ delimiter failure (s : Splitter) lines rest n,
      PartAt ⟨delimiter, failure, memory⟩ s lines rest → LastLength lines n →
      n < Nat.pow 2 64 → rest.length < n →
      ∃ fault, Yields ⟨delimiter, failure, memory⟩ s [.error fault] := by
  rintro ⟨memory, claimed⟩
  let n : Nat := 18446744073709551615
  have part := partAt_shortStream memory "18446744073709551615" (by decide)
  have last : LastLength [shortHeader "18446744073709551615"] n :=
    ⟨[], _, [], rfl, by decide +kernel, by decide +kernel, nofun⟩
  obtain ⟨fault, yields⟩ := claimed _ _ _ _ _ n part last (by decide) (by decide)
  obtain ⟨bytes, begins, read⟩ := exists_headers_of_partAt part last
  have long : addressable ≤ n := by decide
  have crash := next_of_long begins read (Nat.le_trans (Nat.min_le_right ..) long)
  cases crash.symm.trans (yields 0)

end ActionBridge.Multipart
