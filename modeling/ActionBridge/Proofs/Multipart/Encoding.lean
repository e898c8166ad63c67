import ActionBridge.Multipart.Splitter
import ActionBridge.Proofs.Text.Ascii
import ActionBridge.Proofs.Text.Splitting
import ActionBridge.Proofs.Text.Trimming

/-!
# Encoded streams

How a list of bodies is written as a multipart stream. A part is framed by the length that one
of its headers announces, and then its body is any bytes, or by the next delimiter line, and then
no line of the body may be taken for one. The rest is lines, each ended in one way or the other.
-/
namespace ActionBridge.Multipart

/-! ## Lines -/

inductive LineEnd where
  | lf
  | crlf
  deriving Repr, DecidableEq

def LineEnd.bytes : LineEnd → List UInt8
  | .lf => [10]
  | .crlf => [13, 10]

/-- A line with its end. -/
structure Line where
  text : List UInt8
  ending : LineEnd
  unbroken : lineFeed ∉ text

def Line.bytes (l : Line) : List UInt8 := l.text ++ l.ending.bytes

/-- A text that is neither a delimiter line nor a closing line. -/
def Ordinary (delimiter text : List UInt8) : Prop :=
  lineText text ≠ delimiter ∧ ¬ (delimiter <+: lineText text ∧ dashes <:+ lineText text)

instance (delimiter text : List UInt8) : Decidable (Ordinary delimiter text) :=
  inferInstanceAs (Decidable (_ ∧ ¬ (_ ∧ _)))

/-- A line that is neither a delimiter line nor a closing line. -/
structure Filler (delimiter : List UInt8) extends Line where
  ordinary : Ordinary delimiter text

/-- A header, which is not blank. -/
structure Header extends Line where
  shown : lineText text ≠ []

/-! ## Announced lengths -/

/-- The name and the value of a header, if it has both. -/
def field? (header : List UInt8) : Option (String × String) :=
  (Text.splitFirst ':' (Utf8.decodeLenient (lineText header)).toList).map fun (name, value) =>
    (Text.trim (String.ofList name), Text.trim (String.ofList value))

/-- Whether a header bears the name of the one that announces a length. -/
def namesLength (header : List UInt8) : Bool :=
  (field? header).any fun field => Text.sameLetters field.1 "content-length"

/-- The number that a header has for its value. -/
def number? (header : List UInt8) : Option Nat :=
  (field? header).bind fun field => Decimal.unsigned? 64 field.2

/-- One header announces the length of the body, which the memory holds. -/
structure Sized (memory : Nat) (headers : List Header) (body : List UInt8) : Prop where
  announced : ∃ before header after, headers = before ++ header :: after ∧
    namesLength header.text = true ∧ number? header.text = some body.length ∧
    ∀ other ∈ before ++ after, namesLength other.text = false
  held : body.length < min memory addressable

/-- No header announces a length, and the body cannot be taken to end early or late. -/
structure Bare (delimiter : List UInt8) (headers : List Header) (body : List UInt8) : Prop where
  unannounced : ∀ header ∈ headers, namesLength header.text = false
  solid : ∀ b, body.getLast? = some b → isLineBreak b = false
  inner : ∀ line ∈ Text.splitAll lineFeed body, Ordinary delimiter line

/-! ## Parts and streams -/

/-- A boundary as it can stand on a line. -/
structure Boundary where
  name : String
  nonempty : name ≠ ""
  unbroken : '\n' ∉ name.toList
  solid : ∀ c, name.toList.getLast? = some c → c ≠ ' ' ∧ c ≠ '\t' ∧ c ≠ '\r'

def Boundary.delimiter (b : Boundary) : List UInt8 := delimiterOf b.name

structure Part (memory : Nat) (delimiter : List UInt8) where
  /-- how the delimiter line ends -/
  opening : LineEnd
  headers : List Header
  blank : Line
  body : List UInt8
  /-- the line break behind the body -/
  ending : LineEnd
  empty : lineText blank.text = []
  framed : Sized memory headers body ∨ Bare delimiter headers body

/-- What stands behind the delimiter line of a part. -/
def Part.inner {memory : Nat} {delimiter : List UInt8} (p : Part memory delimiter) : List UInt8 :=
  p.headers.flatMap (·.bytes) ++ p.blank.bytes ++ p.body ++ p.ending.bytes

def Part.bytes {memory : Nat} {delimiter : List UInt8} (p : Part memory delimiter) : List UInt8 :=
  delimiter ++ p.opening.bytes ++ p.inner

/-- The closing line and whatever follows it, if there is one. -/
structure Closing where
  ending : LineEnd
  epilogue : List UInt8

def closingBytes (delimiter : List UInt8) : Option Closing → List UInt8
  | none => []
  | some closing => delimiter ++ dashes ++ closing.ending.bytes ++ closing.epilogue

/-- The parts and the end of a stream. -/
def partsBytes {memory : Nat} {delimiter : List UInt8} (parts : List (Part memory delimiter)) (closing : Option Closing) :
    List UInt8 :=
  parts.flatMap (·.bytes) ++ closingBytes delimiter closing

structure Stream (memory : Nat) (delimiter : List UInt8) where
  preamble : List (Filler delimiter)
  parts : List (Part memory delimiter)
  closing : Option Closing

def Stream.bytes {memory : Nat} {delimiter : List UInt8} (s : Stream memory delimiter) : List UInt8 :=
  s.preamble.flatMap (·.bytes) ++ partsBytes s.parts s.closing

/-! ## Reading a line -/

theorem cutLine_append_cons {text : List UInt8} (unbroken : lineFeed ∉ text) (rest : List UInt8) :
    cutLine (text ++ lineFeed :: rest) = (text ++ [lineFeed], rest) := by
  induction text with
  | nil => rfl
  | cons b text ih =>
    rw [List.mem_cons, not_or] at unbroken
    have other : ¬ (b == lineFeed) = true := fun same => unbroken.1 (eq_of_beq same).symm
    rw [List.cons_append, cutLine, if_neg other, ih unbroken.2]
    rfl

theorem cutLine_bytes (l : Line) (rest : List UInt8) : cutLine (l.bytes ++ rest) = (l.bytes, rest) := by
  obtain ⟨text, ending, unbroken⟩ := l
  cases ending with
  | lf =>
    have split : text ++ [10] ++ rest = text ++ lineFeed :: rest := List.append_assoc ..
    exact split ▸ cutLine_append_cons unbroken rest
  | crlf =>
    have unbroken' : lineFeed ∉ text ++ [13] := by
      rw [List.mem_append]
      exact fun member => member.elim unbroken (by decide)
    have split : text ++ [13, 10] ++ rest = (text ++ [13]) ++ lineFeed :: rest := by simp [lineFeed]
    have line : text ++ [13, 10] = (text ++ [13]) ++ [lineFeed] := by simp [lineFeed]
    rw [Line.bytes, LineEnd.bytes, split, cutLine_append_cons unbroken', line]

theorem nextLine_bytes (l : Line) (rest : List UInt8) :
    nextLine none (l.bytes ++ rest) = .line l.bytes rest := by
  have some : (l.bytes ++ rest).isEmpty = false := by
    obtain ⟨text, ending, _⟩ := l
    cases text <;> cases ending <;> rfl
  rw [nextLine, some, cutLine_bytes]
  rfl

theorem lineText_bytes (l : Line) : lineText l.bytes = lineText l.text := by
  have spaces : l.ending.bytes.all isLineSpace = true := by
    cases l.ending <;> rfl
  exact Text.dropEndWhile_append_of_all (List.all_eq_true.mp spaces) l.text

theorem kind_bytes (delimiter : List UInt8) (l : Line) :
    LineKind.of delimiter l.bytes = LineKind.of delimiter l.text := by
  rw [LineKind.of, lineText_bytes, LineKind.of]

theorem kind_of_ordinary {delimiter text : List UInt8} (ordinary : Ordinary delimiter text) :
    LineKind.of delimiter text = .other := by
  have open' : ¬ (delimiter.isPrefixOf (lineText text) && dashes.isSuffixOf (lineText text)) = true := by
    rw [Bool.and_eq_true, List.isPrefixOf_iff_prefix, List.isSuffixOf_iff_suffix]
    exact ordinary.2
  simp only [LineKind.of, if_neg ordinary.1, if_neg open']

/-! ## Delimiter and closing lines -/

/-- A delimiter that a line can consist of. -/
structure Delimits (delimiter : List UInt8) : Prop where
  nonempty : delimiter ≠ []
  unbroken : lineFeed ∉ delimiter
  solid : lineText delimiter = delimiter

theorem Boundary.delimits (b : Boundary) : Delimits b.delimiter := by
  have split : b.delimiter = dashes ++ Utf8.bytesOf b.name := Utf8.bytesOf_append "--" b.name
  refine ⟨?_, ?_, ?_⟩
  · rw [split]
    exact List.cons_ne_nil _ _
  · rw [split, List.mem_append]
    rintro (member | member)
    · exact absurd member (by decide)
    · exact b.unbroken (Utf8.mem_of_mem_bytesOf (by decide) member)
  · refine Text.dropEndWhile_eq_self fun last here => Bool.eq_false_iff.mpr fun space => ?_
    have named : b.name.toList ≠ [] := fun none => b.nonempty (String.toList_inj.mp none)
    have ends (ascii : last.toNat < 0x80) : b.name.toList.getLast? = some (Char.ofNat last.toNat) := by
      have text := Utf8.getLast?_of_bytesOf ascii here
      rwa [String.toList_append, List.getLast?_append_of_ne_nil _ named] at text
    simp only [isLineSpace, isLineBreak, lineFeed, Bool.or_eq_true, beq_iff_eq] at space
    rcases space with ((rfl | rfl) | rfl) | rfl
    · exact b.unbroken (List.mem_of_getLast? (ends (by decide)))
    · exact (b.solid _ (ends (by decide))).2.2 rfl
    · exact (b.solid _ (ends (by decide))).1 rfl
    · exact (b.solid _ (ends (by decide))).2.1 rfl

theorem kind_delimiter {delimiter : List UInt8} (delimits : Delimits delimiter) :
    LineKind.of delimiter delimiter = .delimiter := by
  rw [LineKind.of, delimits.solid, if_pos rfl]

theorem kind_closing {delimiter : List UInt8} :
    LineKind.of delimiter (delimiter ++ dashes) = .closing := by
  have solid : lineText (delimiter ++ dashes) = delimiter ++ dashes := by
    refine Text.dropEndWhile_eq_self fun last here => ?_
    rw [List.getLast?_append] at here
    obtain rfl : 45 = last := Option.some.inj here
    decide
  have longer : delimiter ++ dashes ≠ delimiter := fun same => by
    have := congrArg List.length same
    simp [dashes] at this
  have closes : (delimiter.isPrefixOf (delimiter ++ dashes) && dashes.isSuffixOf (delimiter ++ dashes)) = true := by
    rw [Bool.and_eq_true, List.isPrefixOf_iff_prefix, List.isSuffixOf_iff_suffix]
    exact ⟨List.prefix_append .., List.suffix_append ..⟩
  simp only [LineKind.of, solid, if_neg longer, if_pos closes]

end ActionBridge.Multipart
