import ActionBridge.Proofs.Multipart.RoundTrip
import Mathlib.Data.List.TakeWhile

/-!
# Streams that break off

A stream may end behind any of its bytes. What is left of a line that is cut has no line break, and
nothing behind it (`next_of_unbroken`), so that a cut between the bodies is never seen; a cut in a body
whose length is announced is an error. Hence, if all parts are framed by lengths, a stream that is cut
gives the bodies that are whole, one error if the cut is in a body, and then nothing more
(`yields_take`).
-/
namespace ActionBridge.Multipart

variable {memory : Nat} {delimiter : List UInt8} {parts : List (Part memory delimiter)} {closing : Option Closing}

/-! ## One call after the other -/

/-- What a call for the next part gives behind `k` other calls. -/
def item (f : Framing) (s : Splitter) : (k : Nat) → Outcome TransportFault (Option (List UInt8))
  | 0 => (next f s).outcome
  | k + 1 => item f (next f s).after k

/-- The calls give these items in order, and from then on there is no part. -/
def Yields (f : Framing) (s : Splitter)
    (items : List (Outcome TransportFault (Option (List UInt8)))) : Prop :=
  ∀ k, item f s k = items[k]?.getD (.ok none)

section Calls

variable {f : Framing} {s : Splitter}

theorem yields_nil_of_finished (rest : List UInt8) : Yields f ⟨.finished, rest⟩ [] := by
  intro k
  induction k with
  | zero => rfl
  | succ k ih => exact ih

theorem Yields.cons {outcome : Outcome TransportFault (Option (List UInt8))} {after : Splitter}
    {items : List (Outcome TransportFault (Option (List UInt8)))} (found : next f s = ⟨outcome, after⟩)
    (later : Yields f after items) : Yields f s (outcome :: items) := by
  intro k
  cases k with
  | zero => exact congrArg Found.outcome found
  | succ k => exact (congrArg (item f ·.after k) found).trans (later k)

/-- A call gives a part, or crashes, or it is the last one that reads. -/
theorem partFrom_cases (memory : Nat) (failure : Option String) (delimiter bytes : List UInt8) :
    let found := partFrom memory failure delimiter bytes
    (∃ chunk, found.outcome = .ok (some chunk)) ∨ (∃ x, found.outcome = .crash x) ∨
      found.after.phase = .finished := by
  unfold partFrom
  rcases headers failure none bytes with fault | - | ⟨length, rest⟩
  · exact .inr (.inr rfl)
  · exact .inr (.inr rfl)
  · dsimp only
    split
    · exact .inl ⟨_, rfl⟩
    · exact .inr (.inr rfl)
    · exact .inr (.inl ⟨_, rfl⟩)

theorem next_cases (f : Framing) (s : Splitter) :
    (∃ chunk, (next f s).outcome = .ok (some chunk)) ∨ (∃ x, (next f s).outcome = .crash x) ∨
      (next f s).after.phase = .finished := by
  obtain ⟨phase, rest⟩ := s
  obtain ⟨delimiter, failure, memory⟩ := f
  have whole : (readAll failure rest).after.phase = .finished := by
    cases failure <;> rfl
  cases phase <;> cases delimiter
  case finished.none | finished.some => exact .inr (.inr rfl)
  case seeking.none | opened.none => exact .inr (.inr whole)
  case opened.some delimiter => exact partFrom_cases memory failure delimiter rest
  case seeking.some delimiter =>
    simp only [next]
    rcases seek failure delimiter rest with fault | - | after
    · exact .inr (.inr rfl)
    · exact .inr (.inr rfl)
    · exact partFrom_cases memory failure delimiter after

/-- Behind a call that gives no part, or an error, there is nothing. -/
theorem yields_after (last : (next f s).outcome = .ok none ∨ ∃ fault, (next f s).outcome = .error fault) :
    Yields f (next f s).after [] := by
  rcases next_cases f s with ⟨chunk, more⟩ | ⟨x, crash⟩ | ended
  · simp [more] at last
  · simp [crash] at last
  · generalize (next f s).after = after at ended
    obtain ⟨phase, rest⟩ := after
    obtain rfl : phase = .finished := ended
    exact yields_nil_of_finished rest

theorem yields_nil (none : (next f s).outcome = .ok none) : Yields f s [] := by
  intro k
  cases k with
  | zero => exact none
  | succ k => exact yields_after (.inl none) k

theorem yields_error {fault : TransportFault} (error : (next f s).outcome = .error fault) :
    Yields f s [.error fault] :=
  error ▸ Yields.cons rfl (yields_after (.inr ⟨fault, error⟩))

end Calls

/-! ## Lines that are cut -/

theorem lineText_eq_nil_iff {line : List UInt8} :
    lineText line = [] ↔ ∀ b ∈ line, isLineSpace b = true := by
  simp [lineText, Text.dropEndWhile, List.dropWhile_eq_nil_iff]

theorem Line.exists_init (l : Line) : ∃ init, lineFeed ∉ init ∧ l.bytes = init ++ [lineFeed] := by
  obtain ⟨text, ending, unbroken⟩ := l
  cases ending with
  | lf => exact ⟨text, unbroken, rfl⟩
  | crlf =>
    refine ⟨text ++ [13], ?_, by simp [Line.bytes, LineEnd.bytes, lineFeed]⟩
    rw [List.mem_append]
    exact fun member => member.elim unbroken (by decide)

/-- A line that is cut has no line break. -/
theorem unbroken_take {l : Line} {n : Nat} (short : n < l.bytes.length) : lineFeed ∉ l.bytes.take n := by
  obtain ⟨init, unbroken, bytes⟩ := l.exists_init
  rw [bytes, List.length_append, List.length_singleton] at short
  rw [bytes, List.take_append_of_le_length (by omega)]
  exact fun member => unbroken (List.mem_of_mem_take member)

theorem cutLine_of_unbroken {bytes : List UInt8} (unbroken : lineFeed ∉ bytes) :
    cutLine bytes = (bytes, []) := by
  induction bytes with
  | nil => rfl
  | cons b bytes ih =>
    rw [List.mem_cons, not_or] at unbroken
    have other : ¬ (b == lineFeed) = true := fun same => unbroken.1 (eq_of_beq same).symm
    rw [cutLine, if_neg other, ih unbroken.2]

theorem nextLine_of_unbroken {bytes : List UInt8} (unbroken : lineFeed ∉ bytes) (some : bytes ≠ []) :
    nextLine none bytes = .line bytes [] := by
  have occupied : ¬ bytes.isEmpty = true := fun empty => some (List.isEmpty_iff.mp empty)
  simp only [nextLine, if_neg occupied, cutLine_of_unbroken unbroken]

theorem seek_empty : seek none delimiter [] = .ok none := by
  rw [seek]
  rfl

theorem partFrom_empty : partFrom memory none delimiter [] = ⟨.ok none, ⟨.finished, []⟩⟩ := by
  rw [partFrom, headers]
  rfl

/-- Where no line is whole no part is found, whatever the beginning of a line looks like. -/
theorem next_of_unbroken {bytes : List UInt8} (unbroken : lineFeed ∉ bytes) :
    (next ⟨some delimiter, none, memory⟩ ⟨.seeking, bytes⟩).outcome = .ok none := by
  by_cases some : bytes = []
  · simp only [some, next, seek_empty]
  · simp only [next, seek_of_line (nextLine_of_unbroken unbroken some)]
    cases LineKind.of delimiter bytes with
    | delimiter => simp only [partFrom_empty]
    | closing => rfl
    | other => simp only [seek_empty]

theorem take_append_of_le {xs : List UInt8} {n : Nat} (le : xs.length ≤ n) (ys : List UInt8) :
    (xs ++ ys).take n = xs ++ ys.take (n - xs.length) := by
  rw [List.take_append, List.take_of_length_le le]

theorem next_fillers (memory : Nat) (between : List (Filler delimiter)) (rest : List UInt8) :
    next ⟨some delimiter, none, memory⟩ ⟨.seeking, between.flatMap (·.bytes) ++ rest⟩
      = next ⟨some delimiter, none, memory⟩ ⟨.seeking, rest⟩ := by
  simp only [next, seek_fillers]

theorem next_fillers_take {between : List (Filler delimiter)} {n : Nat}
    (short : n < (between.flatMap (·.bytes)).length) :
    (next ⟨some delimiter, none, memory⟩ ⟨.seeking, (between.flatMap (·.bytes)).take n⟩).outcome = .ok none := by
  induction between generalizing n with
  | nil => exact absurd short (Nat.not_lt_zero n)
  | cons l ls ih =>
    rw [List.flatMap_cons] at short ⊢
    by_cases inner : n < l.bytes.length
    · rw [List.take_append_of_le_length (Nat.le_of_lt inner)]
      exact next_of_unbroken (unbroken_take inner)
    · have first := next_fillers memory [l] ((ls.flatMap (·.bytes)).take (n - l.bytes.length))
      rw [List.flatMap_singleton] at first
      rw [take_append_of_le (Nat.le_of_not_lt inner), first]
      rw [List.length_append] at short
      exact ih (by omega)

/-! ## Headers and bodies that are cut -/

/-- A header of which no beginning is a blank line. -/
def Header.Begun (h : Header) : Prop := ∃ b, h.text.head? = some b ∧ isLineSpace b = false

/-- Headers that are not followed by any byte of a blank line begin no body. -/
theorem headers_take {hs : List Header} (begun : ∀ h ∈ hs, h.Begun) (rest : List UInt8) {n : Nat}
    (short : n ≤ (hs.flatMap (·.bytes)).length) (length : Option Nat) :
    headers none length ((hs.flatMap (·.bytes) ++ rest).take n) = .ok none := by
  have ended (length : Option Nat) : headers none length [] = .ok none := by
    rw [headers]
    rfl
  induction hs generalizing n length with
  | nil =>
    obtain rfl : n = 0 := Nat.le_zero.mp short
    exact ended length
  | cons h hs ih =>
    have total : ((h :: hs).flatMap (·.bytes)).length
        = h.bytes.length + (hs.flatMap (·.bytes)).length := List.length_append
    rw [List.flatMap_cons, List.append_assoc]
    by_cases inner : n < h.bytes.length
    · rw [List.take_append_of_le_length (Nat.le_of_lt inner)]
      by_cases none : n = 0
      · rw [none, List.take_zero, ended]
      · obtain ⟨b, first, solid⟩ := begun h List.mem_cons_self
        obtain ⟨text, written⟩ := List.head?_eq_some_iff.mp first
        obtain ⟨m, rfl⟩ := Nat.exists_eq_succ_of_ne_zero none
        have cut : h.bytes.take (m + 1) = b :: (text ++ h.ending.bytes).take m := by
          rw [Line.bytes, written, List.cons_append, List.take_succ_cons]
        have shown : lineText (h.bytes.take (m + 1)) ≠ [] := fun blank => by
          have space := lineText_eq_nil_iff.mp blank b (cut ▸ List.mem_cons_self)
          exact Bool.false_ne_true (solid.symm.trans space)
        have some : h.bytes.take (m + 1) ≠ [] := cut ▸ List.cons_ne_nil _ _
        rw [headers_of_line (nextLine_of_unbroken (unbroken_take inner) some), if_neg shown, ended]
    · rw [take_append_of_le (Nat.le_of_not_lt inner), headers_line, if_neg h.shown]
      exact ih (fun h member => begun h (List.mem_cons_of_mem _ member)) (by omega) _

/-- A blank line of which only a byte is left is a blank line. -/
theorem headers_blank_take {blank : Line} (empty : lineText blank.text = []) (rest : List UInt8) {n : Nat}
    (reached : 0 < n) (length : Option Nat) :
    headers none length ((blank.bytes ++ rest).take n)
      = .ok (some (length, rest.take (n - blank.bytes.length))) := by
  by_cases inner : n < blank.bytes.length
  · have spaces := lineText_eq_nil_iff.mp ((lineText_bytes blank).trans empty)
    have shown : lineText (blank.bytes.take n) = [] :=
      lineText_eq_nil_iff.mpr fun b member => spaces b (List.mem_of_mem_take member)
    have some : blank.bytes.take n ≠ [] := fun none => by
      have taken := congrArg List.length none
      rw [List.length_take, List.length_nil] at taken
      omega
    rw [List.take_append_of_le_length (Nat.le_of_lt inner), Nat.sub_eq_zero_of_le (Nat.le_of_lt inner),
      List.take_zero, headers_of_line (nextLine_of_unbroken (unbroken_take inner) some), if_pos shown]
  · rw [take_append_of_le (Nat.le_of_not_lt inner), headers_line, if_pos empty]

/-- What is read of a stream that ends in a body. -/
def fault (body : List UInt8) : TransportFault := .truncated body.length "failed to fill whole buffer"

theorem sizedBody_take {body : List UInt8} (held : body.length < min memory addressable) (rest : List UInt8)
    (n : Nat) :
    sizedBody memory none body.length ((body ++ rest).take n)
      = if n < body.length then .error (fault body)
        else .ok (body, ⟨.seeking, rest.take (n - body.length)⟩) := by
  by_cases inner : n < body.length
  · have short : (body.take n).length < body.length := by
      rw [List.length_take]
      omega
    rw [if_pos inner, List.take_append_of_le_length (Nat.le_of_lt inner),
      sizedBody_of_lt held, if_pos short]
    rfl
  · rw [if_neg inner, take_append_of_le (Nat.le_of_not_lt inner), sizedBody_append held]

/-! ## Parts that are cut -/

/-- A part that is framed by a length, and no header of which can be cut to a blank line. -/
structure Part.Steady (p : Part memory delimiter) : Prop where
  sized : Sized memory p.headers p.body
  begun : ∀ h ∈ p.headers, h.Begun

theorem partFrom_take {p : Part memory delimiter} (steady : p.Steady) (rest : List UInt8) (n : Nat) :
    let blankAt := (p.headers.flatMap (·.bytes)).length
    let bodyAt := blankAt + p.blank.bytes.length
    partFrom memory none delimiter ((p.inner ++ rest).take n)
      = if n ≤ blankAt then ⟨.ok none, ⟨.finished, []⟩⟩
        else if n - bodyAt < p.body.length then ⟨.error (fault p.body), ⟨.finished, []⟩⟩
        else ⟨.ok (some p.body),
          ⟨.seeking, (p.ending.bytes ++ rest).take (n - (bodyAt + p.body.length))⟩⟩ := by
  intro blankAt bodyAt
  have split : p.inner ++ rest = p.headers.flatMap (·.bytes)
      ++ (p.blank.bytes ++ (p.body ++ (p.ending.bytes ++ rest))) := by
    simp only [Part.inner, List.append_assoc]
  rw [split, partFrom]
  by_cases early : n ≤ blankAt
  · rw [if_pos early, headers_take steady.begun _ early]
  · have reached : 0 < n - blankAt := by omega
    rw [if_neg early, take_append_of_le (Nat.le_of_not_le early), headers_append,
      headers_blank_take p.empty _ reached, announced_of_sized steady.sized]
    have here : n - blankAt - p.blank.bytes.length = n - bodyAt := by omega
    dsimp only
    rw [here, sizedBody_take steady.sized.held]
    by_cases inner : n - bodyAt < p.body.length
    · rw [if_pos inner, if_pos inner]
    · rw [if_neg inner, if_neg inner, Nat.sub_add_eq n bodyAt]

/-! ## Where parts stand -/

/-- A part with the number of bytes in front of it. -/
structure Placed (memory : Nat) (delimiter : List UInt8) where
  offset : Nat
  part : Part memory delimiter

/-- Parts one behind the other. -/
def placedFrom (offset : Nat) : List (Part memory delimiter) → List (Placed memory delimiter)
  | [] => []
  | p :: parts => ⟨offset, p⟩ :: placedFrom (offset + p.bytes.length) parts

/-- The parts of a stream. -/
def Stream.placed (s : Stream memory delimiter) : List (Placed memory delimiter) :=
  placedFrom (s.preamble.flatMap (·.bytes)).length s.parts

namespace Placed

variable (q : Placed memory delimiter) (n : Nat)

/-- Where the blank line behind the headers begins. -/
def blankAt : Nat :=
  q.offset + (delimiter ++ q.part.opening.bytes ++ q.part.headers.flatMap (·.bytes)).length

/-- Where the body begins. -/
def bodyAt : Nat := q.blankAt + q.part.blank.bytes.length

/-- Where the body ends. -/
def bodyEnd : Nat := q.bodyAt + q.part.body.length

/-- The body stands in front of a cut; for an empty one a byte of the blank line is enough. -/
def Arrives : Prop := if q.part.body = [] then q.blankAt < n else q.bodyEnd ≤ n

/-- The body is begun in front of a cut, with a byte of the blank line, and not ended there. -/
def Breaks : Prop := q.part.body ≠ [] ∧ q.blankAt < n ∧ n < q.bodyEnd

instance : Decidable (q.Arrives n) :=
  inferInstanceAs (Decidable (if q.part.body = [] then q.blankAt < n else q.bodyEnd ≤ n))

instance : Decidable (q.Breaks n) := inferInstanceAs (Decidable (_ ∧ _ ∧ _))

theorem blankAt_lt_bodyEnd : q.blankAt < q.bodyEnd := by
  obtain ⟨init, -, bytes⟩ := q.part.blank.exists_init
  have length : q.part.blank.bytes.length = init.length + 1 := by
    rw [bytes, List.length_append, List.length_singleton]
  unfold bodyEnd bodyAt
  omega

theorem bodyEnd_add : q.bodyEnd + q.part.ending.bytes.length = q.offset + q.part.bytes.length := by
  simp only [bodyEnd, bodyAt, blankAt, Part.bytes, Part.inner, List.length_append]
  omega

variable {q n}

theorem not_arrives_of_le (early : n ≤ q.blankAt) : ¬ q.Arrives n := by
  have later := q.blankAt_lt_bodyEnd
  unfold Arrives
  split <;> omega

theorem not_breaks_of_le (early : n ≤ q.blankAt) : ¬ q.Breaks n :=
  fun breaks => Nat.not_lt_of_le early breaks.2.1

theorem Breaks.not_arrives (breaks : q.Breaks n) : ¬ q.Arrives n := by
  rw [Arrives, if_neg breaks.1]
  exact Nat.not_le_of_lt breaks.2.2

end Placed

/-- What the calls give of a stream with these parts that is cut: the bodies in front of the cut, and an
    error for the one that it breaks. -/
def cutItems (placed : List (Placed memory delimiter)) (n : Nat) :
    List (Outcome TransportFault (Option (List UInt8))) :=
  (placed.filter (·.Arrives n)).map (fun q => .ok (some q.part.body))
    ++ (placed.filter (·.Breaks n)).map (fun q => .error (fault q.part.body))

section Items

variable {n : Nat}

theorem unreached {offset : Nat} (early : n ≤ offset) (parts : List (Part memory delimiter)) :
    ∀ q ∈ placedFrom offset parts, n ≤ q.blankAt := by
  induction parts generalizing offset with
  | nil => exact fun _ => nofun
  | cons p parts ih =>
    refine List.forall_mem_cons.mpr ⟨Nat.le_trans early (Nat.le_add_right _ _), ih ?_⟩
    exact Nat.le_trans early (Nat.le_add_right _ _)

section Behind

variable {q : Placed memory delimiter} (parts : List (Part memory delimiter))

theorem unreached_of_le (early : n ≤ q.bodyEnd) :
    ∀ later ∈ placedFrom (q.offset + q.part.bytes.length) parts, n ≤ later.blankAt := by
  have ending := q.bodyEnd_add
  exact unreached (by omega) parts

theorem unreached_cons (early : n ≤ q.blankAt) :
    ∀ later ∈ placedFrom q.offset (q.part :: parts), n ≤ later.blankAt :=
  have before : n ≤ q.bodyEnd := Nat.le_trans early (Nat.le_of_lt q.blankAt_lt_bodyEnd)
  List.forall_mem_cons.mpr ⟨early, unreached_of_le parts before⟩

end Behind

variable {placed : List (Placed memory delimiter)}

theorem filter_arrives_of_le (early : ∀ q ∈ placed, n ≤ q.blankAt) : placed.filter (·.Arrives n) = [] := by
  simp only [List.filter_eq_nil_iff, decide_eq_true_eq]
  exact fun q member => q.not_arrives_of_le (early q member)

theorem filter_breaks_of_le (early : ∀ q ∈ placed, n ≤ q.blankAt) : placed.filter (·.Breaks n) = [] := by
  simp only [List.filter_eq_nil_iff, decide_eq_true_eq]
  exact fun q member => q.not_breaks_of_le (early q member)

theorem cutItems_of_le (early : ∀ q ∈ placed, n ≤ q.blankAt) : cutItems placed n = [] := by
  rw [cutItems, filter_arrives_of_le early, filter_breaks_of_le early]
  rfl

theorem cutItems_of_breaks {q : Placed memory delimiter} (breaks : q.Breaks n)
    (early : ∀ q ∈ placed, n ≤ q.blankAt) :
    cutItems (q :: placed) n = [.error (fault q.part.body)] := by
  simp [cutItems, breaks, breaks.not_arrives, filter_arrives_of_le early, filter_breaks_of_le early]

theorem cutItems_of_arrives {q : Placed memory delimiter} (arrives : q.Arrives n) :
    cutItems (q :: placed) n = .ok (some q.part.body) :: cutItems placed n := by
  have whole : ¬ q.Breaks n := fun breaks => breaks.not_arrives arrives
  simp [cutItems, arrives, whole]

/-- A cut breaks one body at most. -/
theorem filter_breaks_length_le (offset : Nat) (parts : List (Part memory delimiter)) (n : Nat) :
    ((placedFrom offset parts).filter (·.Breaks n)).length ≤ 1 := by
  induction parts generalizing offset with
  | nil => exact Nat.zero_le 1
  | cons p parts ih =>
    by_cases breaks : Placed.Breaks ⟨offset, p⟩ n
    · simp [placedFrom, breaks, filter_breaks_of_le (unreached_of_le parts (Nat.le_of_lt breaks.2.2))]
    · simpa [placedFrom, breaks] using ih _

end Items

/-! ## Streams that are cut -/

section Streams

variable (delimits : Delimits delimiter)

include delimits

theorem next_delimiter (opening : LineEnd) (rest : List UInt8) :
    next ⟨some delimiter, none, memory⟩ ⟨.seeking, (delimits.line opening).bytes ++ rest⟩
      = partFrom memory none delimiter rest := by
  have kind : LineKind.of delimiter (delimits.line opening).text = .delimiter := kind_delimiter delimits
  simp only [next, seek_line, kind]

/-- The end of a stream gives no part, wherever it is cut. -/
theorem next_end_take (closing : Option Closing) (n : Nat) :
    (next ⟨some delimiter, none, memory⟩
      ⟨.seeking, (partsBytes ([] : List (Part memory delimiter)) closing).take n⟩).outcome = .ok none := by
  cases closing with
  | none => exact next_of_unbroken (by simp [partsBytes, closingBytes])
  | some closing =>
    have kind : LineKind.of delimiter (delimits.closingLine closing.ending).text = .closing := kind_closing
    rw [closingBytes_some delimits]
    by_cases short : n < (delimits.closingLine closing.ending).bytes.length
    · rw [List.take_append_of_le_length (Nat.le_of_lt short)]
      exact next_of_unbroken (unbroken_take short)
    · rw [take_append_of_le (Nat.le_of_not_lt short)]
      simp only [next, seek_line, kind]

/-- What the next call gives of a stream from `start` on that is cut at `n`, by the place of the cut in
    the next part. -/
theorem next_take {p : Part memory delimiter} (steady : p.Steady) (between : List (Filler delimiter))
    (rest : List UInt8) (start n : Nat) :
    let q : Placed memory delimiter := ⟨start + (between.flatMap (·.bytes)).length, p⟩
    let found := next ⟨some delimiter, none, memory⟩
      ⟨.seeking, (between.flatMap (·.bytes) ++ (p.bytes ++ rest)).take (n - start)⟩
    (n ≤ q.blankAt ∧ found.outcome = .ok none) ∨
      (q.Breaks n ∧ found.outcome = .error (fault p.body)) ∨
      q.Arrives n ∧
        found = ⟨.ok (some p.body), ⟨.seeking, (p.ending.bytes ++ rest).take (n - q.bodyEnd)⟩⟩ := by
  intro q found
  have blankAt : q.blankAt = start + (between.flatMap (·.bytes)).length
      + ((delimits.line p.opening).bytes.length + (p.headers.flatMap (·.bytes)).length) :=
    congrArg (_ + ·) List.length_append
  have bodyEnd : q.bodyEnd = q.blankAt + p.blank.bytes.length + p.body.length := rfl
  by_cases amid : n - start < (between.flatMap (·.bytes)).length
  · refine .inl ⟨by omega, ?_⟩
    simp only [found]
    rw [List.take_append_of_le_length (Nat.le_of_lt amid)]
    exact next_fillers_take amid
  have passed : found = next ⟨some delimiter, none, memory⟩
      ⟨.seeking, (p.bytes ++ rest).take (n - start - (between.flatMap (·.bytes)).length)⟩ := by
    simp only [found]
    rw [take_append_of_le (Nat.le_of_not_lt amid), next_fillers]
  rw [partBytes_append delimits] at passed
  by_cases early : n - start - (between.flatMap (·.bytes)).length < (delimits.line p.opening).bytes.length
  · refine .inl ⟨by omega, ?_⟩
    rw [passed, List.take_append_of_le_length (Nat.le_of_lt early)]
    exact next_of_unbroken (unbroken_take early)
  rw [take_append_of_le (Nat.le_of_not_lt early), next_delimiter delimits, partFrom_take steady] at passed
  split at passed
  · exact .inl ⟨by omega, congrArg Found.outcome passed⟩
  split at passed
  · have some : p.body ≠ [] := List.ne_nil_of_length_pos (by omega)
    exact .inr (.inl ⟨⟨some, by omega, by omega⟩, congrArg Found.outcome passed⟩)
  · have arrives : q.Arrives n := by
      unfold Placed.Arrives
      split
      · omega
      · have some : 0 < p.body.length := List.length_pos_iff.mpr ‹_›
        omega
    refine .inr (.inr ⟨arrives, ?_⟩)
    rw [passed]
    congr 3
    omega

/-- A cut gives the bodies in front of it, and an error in a body. -/
theorem yields_cut (steady : ∀ p ∈ parts, p.Steady) (closing : Option Closing)
    (between : List (Filler delimiter)) (start n : Nat) :
    Yields ⟨some delimiter, none, memory⟩
      ⟨.seeking, (between.flatMap (·.bytes) ++ partsBytes parts closing).take (n - start)⟩
      (cutItems (placedFrom (start + (between.flatMap (·.bytes)).length) parts) n) := by
  induction parts generalizing between start with
  | nil =>
    refine yields_nil ?_
    by_cases amid : n - start < (between.flatMap (·.bytes)).length
    · rw [List.take_append_of_le_length (Nat.le_of_lt amid)]
      exact next_fillers_take amid
    · rw [take_append_of_le (Nat.le_of_not_lt amid), next_fillers]
      exact next_end_take delimits closing _
  | cons p parts ih =>
    let q : Placed memory delimiter := ⟨start + (between.flatMap (·.bytes)).length, p⟩
    rw [partsBytes_cons]
    rcases next_take delimits (steady p List.mem_cons_self) between (partsBytes parts closing) start n with
      ⟨early, none⟩ | ⟨breaks, error⟩ | ⟨arrives, found⟩
    · rw [cutItems_of_le (unreached_cons parts early)]
      exact yields_nil none
    · rw [placedFrom, cutItems_of_breaks breaks (unreached_of_le parts (Nat.le_of_lt breaks.2.2))]
      exact yields_error error
    · -- The line break behind the body is a blank line on the way to what follows.
      have line : ([delimits.blank p.ending].flatMap fun l => l.bytes) = p.ending.bytes :=
        List.append_nil _
      have later := ih (fun p member => steady p (List.mem_cons_of_mem _ member))
        [delimits.blank p.ending] q.bodyEnd
      rw [line, q.bodyEnd_add] at later
      rw [placedFrom, cutItems_of_arrives arrives]
      exact Yields.cons found later

end Streams

/-- A stream of parts with lengths that is cut gives the bodies in front of the cut, in order and
    unchanged, then an error if the cut is in a body, and from then on nothing. -/
theorem yields_take (b : Boundary) (s : Stream memory b.delimiter) (steady : ∀ p ∈ s.parts, p.Steady) (n : Nat) :
    let whole := s.placed.filter (·.Arrives n)
    let broken := s.placed.filter (·.Breaks n)
    Yields ⟨some (delimiterOf b.name), none, memory⟩ (.ofBytes (s.bytes.take n))
        (whole.map (fun q => .ok (some q.part.body)) ++ broken.map (fun q => .error (fault q.part.body))) ∧
      broken.length ≤ 1 := by
  refine ⟨?_, filter_breaks_length_le _ _ n⟩
  have cut := yields_cut b.delimits steady s.closing s.preamble 0 n
  rw [Nat.zero_add, Nat.sub_zero] at cut
  exact cut

/-- A part without a byte in it, and one of five bytes that is cut behind the fourth. -/
theorem yields_take_inside :
    Yields ⟨some (delimiterOf "B"), none, 1024⟩
      (.ofBytes (Utf8.bytesOf
        "--B\r\nContent-Length: 0\r\n\r\n\r\n--B\nType: x\nContent-Length: 5\n\n<a/>"))
      [.ok (some []), .error (.truncated 5 "failed to fill whole buffer")] := by
  let b : Boundary :=
    ⟨"B", by decide, by decide, fun c last => by cases (last : some 'B' = some c); decide⟩
  let none : Header := ⟨⟨Utf8.bytesOf "Content-Length: 0", .crlf, by decide⟩, by decide⟩
  let kind : Header := ⟨⟨Utf8.bytesOf "Type: x", .lf, by decide⟩, by decide⟩
  let five : Header := ⟨⟨Utf8.bytesOf "Content-Length: 5", .lf, by decide⟩, by decide⟩
  let sized : Sized 1024 [none] [] := ⟨⟨[], none, [], rfl, by decide, by decide, nofun⟩, by decide⟩
  let later : Sized 1024 [kind, five] (Utf8.bytesOf "<a/>\n") :=
    ⟨⟨[kind], five, [], rfl, by decide, by decide, by decide⟩, by decide⟩
  let first : Part 1024 b.delimiter :=
    { opening := .crlf, headers := [none], blank := ⟨[], .crlf, by decide⟩
      body := [], ending := .crlf, empty := rfl, framed := .inl sized }
  let second : Part 1024 b.delimiter :=
    { opening := .lf, headers := [kind, five], blank := ⟨[], .lf, by decide⟩
      body := Utf8.bytesOf "<a/>\n", ending := .lf, empty := rfl, framed := .inl later }
  let stream : Stream 1024 b.delimiter := ⟨[], [first, second], some ⟨.lf, []⟩⟩
  have steady : ∀ p ∈ stream.parts, p.Steady := by
    have lengths : none.Begun ∧ five.Begun := ⟨⟨67, rfl, by decide⟩, ⟨67, rfl, by decide⟩⟩
    refine List.forall_mem_cons.mpr ⟨⟨sized, ?_⟩, List.forall_mem_singleton.mpr ⟨later, ?_⟩⟩
    · exact List.forall_mem_singleton.mpr lengths.1
    · exact List.forall_mem_cons.mpr ⟨⟨84, rfl, by decide⟩, List.forall_mem_singleton.mpr lengths.2⟩
  have cut : stream.bytes.take 63 = Utf8.bytesOf
      "--B\r\nContent-Length: 0\r\n\r\n\r\n--B\nType: x\nContent-Length: 5\n\n<a/>" := by
    decide
  have arrives : Placed.Arrives ⟨0, first⟩ 63 := by decide
  have breaks : Placed.Breaks ⟨0 + first.bytes.length, second⟩ 63 := by decide
  have items : cutItems stream.placed 63 = [.ok (some []), .error (fault second.body)] :=
    (cutItems_of_arrives arrives).trans (congrArg _ (cutItems_of_breaks breaks (List.forall_mem_nil _)))
  exact cut ▸ items ▸ (yields_take b stream steady 63).1

end ActionBridge.Multipart
