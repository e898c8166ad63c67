import ActionBridge.Proofs.Multipart.Encoding

/-!
# Round trip of multipart streams

Reading an encoded stream gives back its bodies. A body of announced length leaves its line
break to be skipped on the way to the next delimiter line; a body without one is read together
with the delimiter or closing line behind it. `Stands` says what is left to read in either
case, and reading one part after the other keeps it so.
-/
namespace ActionBridge.Multipart

variable {memory : Nat} {delimiter : List UInt8} {parts : List (Part memory delimiter)} {closing : Option Closing}

/-! ## One line read -/

section Reading

variable {failure : Option String} {bytes line rest : List UInt8}

theorem seek_of_line (read : nextLine failure bytes = .line line rest) :
    seek failure delimiter bytes
      = match LineKind.of delimiter line with
        | .delimiter => .ok (some rest)
        | .closing => .ok none
        | .other => seek failure delimiter rest := by
  rw [seek]
  split
  · rename_i broken
    cases broken.symm.trans read
  · rename_i ended
    cases ended.symm.trans read
  · rename_i here
    obtain ⟨rfl, rfl⟩ := NextLine.line.inj (read.symm.trans here)
    cases LineKind.of delimiter line <;> rfl

theorem bodyLines_of_line (read : nextLine failure bytes = .line line rest) :
    bodyLines failure delimiter bytes
      = match LineKind.of delimiter line with
        | .delimiter => .ok ([], ⟨.opened, rest⟩)
        | .closing => .ok ([], ⟨.finished, rest⟩)
        | .other =>
          (bodyLines failure delimiter rest).map fun (body, after) => (line ++ body, after) := by
  rw [bodyLines]
  split
  · rename_i broken
    cases broken.symm.trans read
  · rename_i ended
    cases ended.symm.trans read
  · rename_i here
    obtain ⟨rfl, rfl⟩ := NextLine.line.inj (read.symm.trans here)
    cases LineKind.of delimiter line <;> rfl

theorem headers_of_line (read : nextLine failure bytes = .line line rest) (length : Option Nat) :
    headers failure length bytes
      = if lineText line = [] then .ok (some (length, rest))
        else headers failure (lengthAfter length (lineText line)) rest := by
  rw [headers]
  split
  · rename_i broken
    cases broken.symm.trans read
  · rename_i ended
    cases ended.symm.trans read
  · rename_i here
    obtain ⟨rfl, rfl⟩ := NextLine.line.inj (read.symm.trans here)
    rfl

end Reading

theorem seek_line (l : Line) (rest : List UInt8) :
    seek none delimiter (l.bytes ++ rest)
      = match LineKind.of delimiter l.text with
        | .delimiter => .ok (some rest)
        | .closing => .ok none
        | .other => seek none delimiter rest :=
  kind_bytes delimiter l ▸ seek_of_line (nextLine_bytes l rest)

theorem bodyLines_line (l : Line) (rest : List UInt8) :
    bodyLines none delimiter (l.bytes ++ rest)
      = match LineKind.of delimiter l.text with
        | .delimiter => .ok ([], ⟨.opened, rest⟩)
        | .closing => .ok ([], ⟨.finished, rest⟩)
        | .other =>
          (bodyLines none delimiter rest).map fun (body, after) => (l.bytes ++ body, after) :=
  kind_bytes delimiter l ▸ bodyLines_of_line (nextLine_bytes l rest)

theorem headers_line (length : Option Nat) (l : Line) (rest : List UInt8) :
    headers none length (l.bytes ++ rest)
      = if lineText l.text = [] then .ok (some (length, rest))
        else headers none (lengthAfter length (lineText l.text)) rest :=
  lineText_bytes l ▸ headers_of_line (nextLine_bytes l rest) length

/-! ## Between parts -/

theorem seek_fillers (ls : List (Filler delimiter)) (rest : List UInt8) :
    seek none delimiter (ls.flatMap (·.bytes) ++ rest) = seek none delimiter rest := by
  induction ls with
  | nil => rfl
  | cons l ls ih => rw [List.flatMap_cons, List.append_assoc, seek_line, kind_of_ordinary l.ordinary, ih]

/-- The delimiter line. -/
def Delimits.line (delimits : Delimits delimiter) (ending : LineEnd) : Line :=
  ⟨delimiter, ending, delimits.unbroken⟩

/-- The closing line. -/
def Delimits.closingLine (delimits : Delimits delimiter) (ending : LineEnd) : Line where
  text := delimiter ++ dashes
  ending := ending
  unbroken := by
    rw [List.mem_append]
    exact fun member => member.elim delimits.unbroken (by decide)

/-- A blank line, which is not a delimiter line. -/
def Delimits.blank (delimits : Delimits delimiter) (ending : LineEnd) : Filler delimiter where
  text := []
  ending := ending
  unbroken := List.not_mem_nil
  ordinary := by
    refine ⟨fun same => delimits.nonempty same.symm, fun ends => ?_⟩
    exact absurd (List.suffix_nil.mp ends.2) (by decide)

theorem partBytes_append (delimits : Delimits delimiter) (p : Part memory delimiter) (rest : List UInt8) :
    p.bytes ++ rest = (delimits.line p.opening).bytes ++ (p.inner ++ rest) :=
  List.append_assoc ..

theorem partsBytes_cons (p : Part memory delimiter) (parts : List (Part memory delimiter)) (closing : Option Closing) :
    partsBytes (p :: parts) closing = p.bytes ++ partsBytes parts closing := by
  rw [partsBytes, List.flatMap_cons, List.append_assoc, partsBytes]

theorem closingBytes_some (delimits : Delimits delimiter) (closing : Closing) :
    partsBytes ([] : List (Part memory delimiter)) (some closing)
      = (delimits.closingLine closing.ending).bytes ++ closing.epilogue := rfl

theorem seek_cons (delimits : Delimits delimiter) (p : Part memory delimiter) (parts : List (Part memory delimiter))
    (closing : Option Closing) :
    seek none delimiter (partsBytes (p :: parts) closing)
      = .ok (some (p.inner ++ partsBytes parts closing)) := by
  rw [partsBytes_cons, partBytes_append delimits, seek_line, Delimits.line, kind_delimiter delimits]

theorem seek_nil (delimits : Delimits delimiter) (closing : Option Closing) :
    seek none delimiter (partsBytes ([] : List (Part memory delimiter)) closing) = .ok none := by
  cases closing with
  | none =>
    rw [partsBytes, List.flatMap_nil, List.nil_append, closingBytes, seek]
    rfl
  | some closing =>
    rw [closingBytes_some delimits, seek_line, Delimits.closingLine, kind_closing]

/-! ## Headers -/

theorem lengthAfter_lineText (length : Option Nat) (header : List UInt8) :
    lengthAfter length (lineText header) = if namesLength header then number? header else length := by
  rw [lengthAfter, namesLength, number?, field?]
  cases Text.splitFirst ':' (Utf8.decodeLenient (lineText header)).toList with
  | none => rfl
  | some field =>
    obtain ⟨name, value⟩ := field
    simp only [Option.map_some, Option.any_some, Option.bind_some]

/-- The length that headers announce behind others that announced `length`. -/
def announced (length : Option Nat) (hs : List Header) : Option Nat :=
  hs.foldl (fun length h => if namesLength h.text then number? h.text else length) length

theorem headers_append (length : Option Nat) (hs : List Header) (rest : List UInt8) :
    headers none length (hs.flatMap (·.bytes) ++ rest) = headers none (announced length hs) rest := by
  induction hs generalizing length with
  | nil => rfl
  | cons h hs ih =>
    rw [List.flatMap_cons, List.append_assoc, headers_line, if_neg h.shown, ih, lengthAfter_lineText]
    rfl

theorem headers_lines (length : Option Nat) (hs : List Header) {blank : Line}
    (empty : lineText blank.text = []) (rest : List UInt8) :
    headers none length (hs.flatMap (·.bytes) ++ (blank.bytes ++ rest))
      = .ok (some (announced length hs, rest)) := by
  rw [headers_append, headers_line, if_pos empty]

theorem announced_of_unannounced {hs : List Header}
    (unannounced : ∀ h ∈ hs, namesLength h.text = false) (length : Option Nat) :
    announced length hs = length := by
  induction hs generalizing length with
  | nil => rfl
  | cons h hs ih =>
    have first := unannounced h List.mem_cons_self
    have later := ih fun other member => unannounced other (List.mem_cons_of_mem _ member)
    rw [announced, List.foldl_cons, first]
    exact later length

theorem announced_of_sized {hs : List Header} {body : List UInt8} (sized : Sized memory hs body) :
    announced none hs = some body.length := by
  obtain ⟨before, header, after, rfl, names, number, others⟩ := sized.announced
  have early := announced_of_unannounced (fun h member => others h (List.mem_append_left _ member)) none
  have late := announced_of_unannounced (fun h member => others h (List.mem_append_right _ member))
  rw [announced, List.foldl_append, List.foldl_cons, if_pos names, number]
  exact late _

/-! ## Bodies without length -/

theorem bodyLines_fillers (ls : List (Filler delimiter)) (rest : List UInt8) :
    bodyLines none delimiter (ls.flatMap (·.bytes) ++ rest)
      = (bodyLines none delimiter rest).map fun (body, after) => (ls.flatMap (·.bytes) ++ body, after) := by
  induction ls with
  | nil =>
    rw [List.flatMap_nil, List.nil_append]
    cases bodyLines none delimiter rest <;> rfl
  | cons l ls ih =>
    rw [List.flatMap_cons, List.append_assoc, bodyLines_line, kind_of_ordinary l.ordinary, ih]
    cases bodyLines none delimiter rest with
    | error fault => rfl
    | ok read => simp [Except.map]

/-- A body and a line break are lines. -/
theorem exists_fillers {body : List UInt8}
    (inner : ∀ line ∈ Text.splitAll lineFeed body, Ordinary delimiter line) (ending : LineEnd) :
    ∃ ls : List (Filler delimiter), ls.flatMap (·.bytes) = body ++ ending.bytes := by
  by_cases broken : lineFeed ∈ body
  · obtain ⟨text, rest, split, unbroken⟩ := List.eq_append_cons_of_mem broken
    rw [split, Text.splitAll_append_cons unbroken] at inner
    have shorter : rest.length < body.length := by
      rw [split, List.length_append, List.length_cons]
      omega
    obtain ⟨ls, lines⟩ :=
      exists_fillers (fun line member => inner line (List.mem_cons_of_mem _ member)) ending
    refine ⟨⟨⟨text, .lf, unbroken⟩, inner text List.mem_cons_self⟩ :: ls, ?_⟩
    rw [List.flatMap_cons, lines, split]
    simp [Line.bytes, LineEnd.bytes, lineFeed]
  · rw [Text.splitAll_of_not_mem broken] at inner
    exact ⟨[⟨⟨body, ending, broken⟩, inner body List.mem_cons_self⟩], List.append_nil _⟩
termination_by body.length

/-! ## What is left -/

/-- What is left to read of a stream when these parts are left. -/
inductive Stands (closing : Option Closing) : Splitter → List (Part memory delimiter) → Prop
  | seeking (between : List (Filler delimiter)) (parts : List (Part memory delimiter)) :
      Stands closing ⟨.seeking, between.flatMap (·.bytes) ++ partsBytes parts closing⟩ parts
  | opened (p : Part memory delimiter) (parts : List (Part memory delimiter)) :
      Stands closing ⟨.opened, p.inner ++ partsBytes parts closing⟩ (p :: parts)
  | finished (rest : List UInt8) : Stands closing ⟨.finished, rest⟩ []

/-- Where a body without length has to end, it does. -/
theorem bodyLines_partsBytes (delimits : Delimits delimiter) (parts : List (Part memory delimiter))
    (closing : Option Closing) :
    ∃ after, bodyLines none delimiter (partsBytes parts closing) = .ok ([], after) ∧
      Stands closing after parts := by
  cases parts with
  | cons p parts =>
    refine ⟨_, ?_, .opened p parts⟩
    rw [partsBytes_cons, partBytes_append delimits, bodyLines_line, Delimits.line,
      kind_delimiter delimits]
  | nil =>
    cases closing with
    | none =>
      refine ⟨_, ?_, .seeking [] []⟩
      rw [partsBytes, List.flatMap_nil, List.nil_append, closingBytes, bodyLines]
      rfl
    | some closing =>
      refine ⟨_, ?_, .finished closing.epilogue⟩
      rw [closingBytes_some delimits, bodyLines_line, Delimits.closingLine, kind_closing]

theorem sizedBody_append {body : List UInt8} (held : body.length < min memory addressable) (rest : List UInt8) :
    sizedBody memory none body.length (body ++ rest) = .ok (body, ⟨.seeking, rest⟩) := by
  have enough : ¬ (body ++ rest).length < body.length := by
    rw [List.length_append]
    omega
  rw [sizedBody_of_lt held, if_neg enough, List.take_left, List.drop_left]

theorem openBody_append (delimits : Delimits delimiter) {hs : List Header} {body : List UInt8}
    (bare : Bare delimiter hs body) (ending : LineEnd) (parts : List (Part memory delimiter))
    (closing : Option Closing) :
    ∃ after, openBody none delimiter (body ++ (ending.bytes ++ partsBytes parts closing))
        = .ok (body, after) ∧ Stands closing after parts := by
  obtain ⟨ls, lines⟩ := exists_fillers bare.inner ending
  obtain ⟨after, reads, stands⟩ := bodyLines_partsBytes delimits parts closing
  refine ⟨after, ?_, stands⟩
  have breaks : ending.bytes.all isLineBreak = true := by
    cases ending <;> rfl
  rw [← List.append_assoc, ← lines, openBody, bodyLines_fillers, reads, lines]
  simp only [Except.map, List.append_nil]
  rw [Text.dropEndWhile_append_of_all (List.all_eq_true.mp breaks), Text.dropEndWhile_eq_self bare.solid]

/-! ## Parts -/

theorem partFrom_inner (delimits : Delimits delimiter) (p : Part memory delimiter)
    (parts : List (Part memory delimiter)) (closing : Option Closing) :
    ∃ after, partFrom memory none delimiter (p.inner ++ partsBytes parts closing) = ⟨.ok (some p.body), after⟩ ∧
      Stands closing after parts := by
  have split : p.inner ++ partsBytes parts closing
      = p.headers.flatMap (·.bytes)
        ++ (p.blank.bytes ++ (p.body ++ (p.ending.bytes ++ partsBytes parts closing))) := by
    simp only [Part.inner, List.append_assoc]
  rw [split, partFrom, headers_lines none p.headers p.empty]
  rcases p.framed with sized | bare
  · -- The line break behind the body is a blank line on the way to what follows.
    refine ⟨_, ?_, .seeking [delimits.blank p.ending] parts⟩
    simp only [announced_of_sized sized, sizedBody_append sized.held]
    simp [Line.bytes, Delimits.blank]
  · obtain ⟨after, reads, stands⟩ := openBody_append delimits bare p.ending parts closing
    refine ⟨after, ?_, stands⟩
    simp only [announced_of_unannounced bare.unannounced, reads, Outcome.ofExcept]

/-- The next part is the first of those that are left. -/
theorem next_of_stands_cons (delimits : Delimits delimiter) {s : Splitter} {p : Part memory delimiter}
    (stands : Stands closing s (p :: parts)) :
    ∃ after, next ⟨some delimiter, none, memory⟩ s = ⟨.ok (some p.body), after⟩ ∧ Stands closing after parts := by
  cases stands with
  | seeking between =>
    simp only [next, seek_fillers, seek_cons delimits]
    exact partFrom_inner delimits p parts closing
  | opened => exact partFrom_inner delimits p parts closing

theorem next_of_stands_nil (delimits : Delimits delimiter) {s : Splitter}
    (stands : Stands closing s ([] : List (Part memory delimiter))) :
    (next ⟨some delimiter, none, memory⟩ s).outcome = .ok none := by
  cases stands with
  | seeking between => simp only [next, seek_fillers, seek_nil delimits]
  | finished rest => rfl

/-! ## Streams -/

theorem splitFrom_of_stands (delimits : Delimits delimiter) {s : Splitter}
    (stands : Stands closing s parts) :
    splitFrom ⟨some delimiter, none, memory⟩ s = ⟨parts.map (·.body), .ok ()⟩ := by
  induction parts generalizing s with
  | nil =>
    have ends := next_of_stands_nil delimits stands
    rw [splitFrom]
    split <;> simp_all
  | cons p parts ih =>
    obtain ⟨after, reads, stands⟩ := next_of_stands_cons delimits stands
    have later := ih stands
    rw [splitFrom]
    split <;> simp_all

/-- Reading an encoded stream gives the bodies of its parts, in order and unchanged, and no
    error at the end. -/
theorem split_bytes (b : Boundary) (s : Stream memory b.delimiter) :
    split ⟨some (delimiterOf b.name), none, memory⟩ s.bytes = ⟨s.parts.map (·.body), .ok ()⟩ :=
  splitFrom_of_stands b.delimits (.seeking s.preamble s.parts)

/-- A body of announced length that looks like a delimiter line, and one of two lines without
    a length. -/
theorem split_bytes_mixed :
    split ⟨some (delimiterOf "B"), none, 1024⟩
        (Utf8.bytesOf "\n--B\r\nContent-Length: 5\n\r\n--B\r\n\n--B\nType: x\n\n<a>\n</a>\r\n--B--\nmore")
      = ⟨[Utf8.bytesOf "--B\r\n", Utf8.bytesOf "<a>\n</a>"], .ok ()⟩ := by
  let b : Boundary :=
    ⟨"B", by decide, by decide, fun c last => by cases (last : some 'B' = some c); decide⟩
  let length : Header := ⟨⟨Utf8.bytesOf "Content-Length: 5", .lf, by decide⟩, by decide⟩
  let kind : Header := ⟨⟨Utf8.bytesOf "Type: x", .lf, by decide⟩, by decide⟩
  let first : Part 1024 b.delimiter :=
    { opening := .crlf, headers := [length], blank := ⟨[], .crlf, by decide⟩
      body := Utf8.bytesOf "--B\r\n", ending := .lf, empty := rfl
      framed := .inl ⟨⟨[], length, [], rfl, by decide, by decide, nofun⟩, by decide⟩ }
  let second : Part 1024 b.delimiter :=
    { opening := .lf, headers := [kind], blank := ⟨[], .lf, by decide⟩
      body := Utf8.bytesOf "<a>\n</a>", ending := .crlf, empty := rfl
      framed := .inr ⟨by decide, fun x last => by cases (last : some 62 = some x); decide, by decide⟩ }
  let stream : Stream 1024 b.delimiter :=
    { preamble := [⟨⟨[], .lf, by decide⟩, by decide⟩], parts := [first, second]
      closing := some ⟨.lf, Utf8.bytesOf "more"⟩ }
  have written : stream.bytes = Utf8.bytesOf
      "\n--B\r\nContent-Length: 5\n\r\n--B\r\n\n--B\nType: x\n\n<a>\n</a>\r\n--B--\nmore" := by
    decide
  exact written ▸ split_bytes b stream

end ActionBridge.Multipart
