import ActionBridge.Proofs.Text.Splitting
import ActionBridge.Shdr.Message
import Mathlib.Logic.Function.Basic

/-!
# What a client sees

A client reads lines, cuts each at its bars, and takes what stands behind the timestamp for
names and values in turn. The value that it read last for a name is the one that counts
(`View.read`). For names without bars and values without line breaks that is what the messages
say (`read_of_written`).
-/
namespace ActionBridge.Shdr

/-! ## Reading -/

/-- The values that a client has read, by name. -/
abbrev View := String → Option String

/-- Nothing was read. -/
def View.empty : View := fun _ => none

/-- Takes note of a name and its value. -/
def View.note (v : View) (field : String × String) : View := Function.update v field.1 (some field.2)

/-- Names and values in turn. -/
def pairs : List (List Char) → Record
  | name :: value :: rest => (String.ofList name, String.ofList value) :: pairs rest
  | _ => []

/-- The names and values on a line; what stands before the first bar is none of them. -/
def fieldsOf (line : List Char) : Record := pairs ((Text.splitAll '|' line).drop 1)

/-- Reads a text line by line. -/
def View.read (v : View) (text : String) : View :=
  (Text.splitAll '\n' text.toList).foldl (fun v line => (fieldsOf line).foldl View.note v) v

/-! ## Messages -/

/-- What a message says. -/
def View.learn (v : View) : Message → View
  | .record r => r.foldl (fun v field => v.note (field.1, writtenValue field.2)) v
  | .pong _ => v

/-- A text on one line. -/
def Unbroken (s : String) : Prop := '\n' ∉ s.toList

instance (s : String) : Decidable (Unbroken s) := inferInstanceAs (Decidable ('\n' ∉ s.toList))

/-- A text on one line and without bars. -/
def Plain (s : String) : Prop := '|' ∉ s.toList ∧ Unbroken s

instance (s : String) : Decidable (Plain s) :=
  inferInstanceAs (Decidable ('|' ∉ s.toList ∧ Unbroken s))

/-- A message whose names are plain and whose values stand on one line. -/
def Message.Legible : Message → Prop
  | .record r => ∀ field ∈ r, Plain field.1 ∧ Unbroken field.2
  | .pong _ => True

/-- The texts that messages are written as, with any timestamps. -/
inductive Written : List Message → String → Prop
  | nil : Written [] ""
  | cons {m : Message} {messages : List Message} {stamp text : String} (plain : Plain stamp)
      (later : Written messages text) : Written (m :: messages) (m.text stamp ++ text)

theorem bar_notMem_writtenValue (value : String) : '|' ∉ (writtenValue value).toList := by
  rw [writtenValue, String.toList_ofList, List.mem_map]
  rintro ⟨c, -, same⟩
  split at same
  · exact absurd same (by decide)
  · rename_i other
    exact other same

theorem unbroken_writtenValue {value : String} (unbroken : Unbroken value) :
    Unbroken (writtenValue value) := by
  rw [Unbroken, writtenValue, String.toList_ofList, List.mem_map]
  rintro ⟨c, member, same⟩
  split at same
  · exact absurd same (by decide)
  · exact unbroken (same ▸ member)

/-- The pieces between the bars of a record. -/
def recordPieces (r : Record) : List (List Char) :=
  r.flatMap fun field => [field.1.toList, (writtenValue field.2).toList]

theorem toList_join_writtenField (r : Record) :
    (String.join (r.map writtenField)).toList = (recordPieces r).flatMap ('|' :: ·) := by
  rw [String.toList_join, List.flatMap_map, recordPieces, List.flatMap_assoc]
  congr
  funext field
  simp [writtenField]

theorem pairs_recordPieces (r : Record) :
    pairs (recordPieces r) = r.map fun field => (field.1, writtenValue field.2) := by
  induction r with
  | nil => rfl
  | cons field r ih =>
    have split : recordPieces (field :: r)
        = field.1.toList :: (writtenValue field.2).toList :: recordPieces r := rfl
    rw [split, pairs, ih, String.ofList_toList, String.ofList_toList, List.map_cons]

theorem bar_notMem_recordPieces {r : Record} (clean : ∀ field ∈ r, '|' ∉ field.1.toList) :
    ∀ piece ∈ recordPieces r, '|' ∉ piece := by
  intro piece member
  obtain ⟨field, inside, here⟩ := List.mem_flatMap.mp member
  rcases List.mem_cons.mp here with rfl | here
  · exact clean field inside
  · rw [List.mem_singleton.mp here]
    exact bar_notMem_writtenValue field.2

/-- The line of a record, without its end. -/
def recordLine (stamp : String) (r : Record) : List Char :=
  stamp.toList ++ (recordPieces r).flatMap ('|' :: ·)

/-- The line of an answer to a ping, without its end. -/
def pongLine (heartbeat : Nat) : List Char := "* PONG ".toList ++ (toString heartbeat).toList

/-- Whatever the values are, a line is cut at its bars into the timestamp, the names and the
    values as they are written. -/
theorem splitAll_recordLine {r : Record} (clean : ∀ field ∈ r, '|' ∉ field.1.toList) {stamp : String}
    (plain : '|' ∉ stamp.toList) :
    Text.splitAll '|' (recordLine stamp r) = stamp.toList :: recordPieces r := by
  rw [recordLine, Text.splitAll_append_flatMap (bar_notMem_recordPieces clean),
    Text.splitAll_of_not_mem plain, List.singleton_append]

/-- The text of a record is its line with a line feed behind it. -/
theorem toList_text_record (stamp : String) (r : Record) :
    ((Message.record r).text stamp).toList = recordLine stamp r ++ ['\n'] := by
  rw [Message.text, String.toList_append, String.toList_append, toList_join_writtenField]
  rfl

theorem break_notMem_recordLine {r : Record} (legible : (Message.record r).Legible) {stamp : String}
    (plain : Plain stamp) : '\n' ∉ recordLine stamp r := by
  rw [recordLine, List.mem_append, List.mem_flatMap]
  rintro (inside | ⟨piece, member, inside⟩)
  · exact plain.2 inside
  · obtain ⟨field, here, among⟩ := List.mem_flatMap.mp member
    have inPiece : '\n' ∈ piece := (List.mem_cons.mp inside).resolve_left (by decide)
    rcases List.mem_cons.mp among with rfl | among
    · exact (legible field here).1.2 inPiece
    · rw [List.mem_singleton.mp among] at inPiece
      exact unbroken_writtenValue (legible field here).2 inPiece

theorem fieldsOf_recordLine {r : Record} (legible : (Message.record r).Legible) {stamp : String}
    (plain : Plain stamp) :
    fieldsOf (recordLine stamp r) = r.map fun field => (field.1, writtenValue field.2) := by
  have clean : ∀ field ∈ r, '|' ∉ field.1.toList := fun field inside => (legible field inside).1.1
  rw [fieldsOf, splitAll_recordLine clean plain.1, List.drop_one, List.tail_cons, pairs_recordPieces]

/-- Besides its first word an answer to a ping has digits only. -/
theorem notMem_pongLine {c : Char} (word : c ∉ "* PONG ".toList) (other : c.isDigit = false)
    (heartbeat : Nat) : c ∉ pongLine heartbeat := by
  intro member
  rcases List.mem_append.mp member with inside | inside
  · exact word inside
  · rw [Nat.toString_eq_repr, Nat.toList_repr] at inside
    have digit : c.isDigit = true := Nat.isDigit_of_mem_toDigits (by decide) (by decide) inside
    simp [other] at digit

/-- A message is a line of its own, which says what the message says. -/
theorem line_of_message {m : Message} (legible : m.Legible) {stamp : String} (plain : Plain stamp) :
    ∃ line, (m.text stamp).toList = line ++ ['\n'] ∧ '\n' ∉ line ∧
      ∀ v : View, (fieldsOf line).foldl View.note v = v.learn m := by
  cases m with
  | record r =>
    refine ⟨recordLine stamp r, toList_text_record stamp r, break_notMem_recordLine legible plain, ?_⟩
    intro v
    rw [fieldsOf_recordLine legible plain, List.foldl_map]
    rfl
  | pong heartbeat =>
    have unbroken : '\n' ∉ pongLine heartbeat := notMem_pongLine (by decide) (by decide) heartbeat
    have clean : '|' ∉ pongLine heartbeat := notMem_pongLine (by decide) (by decide) heartbeat
    refine ⟨pongLine heartbeat, ?_, unbroken, fun v => ?_⟩
    · unfold pongLine
      simp [Message.text, ToString.toString]
    · rw [fieldsOf, Text.splitAll_of_not_mem clean]
      rfl

/-- Reading the text of messages is learning what they say, one after the other. -/
theorem read_of_written {messages : List Message} {text : String} (written : Written messages text)
    (legible : ∀ m ∈ messages, m.Legible) (v : View) : v.read text = messages.foldl View.learn v := by
  induction written generalizing v with
  | nil => rfl
  | @cons m messages stamp text plain _ ih =>
    obtain ⟨line, split, unbroken, learns⟩ := line_of_message (legible m List.mem_cons_self) plain
    rw [List.foldl_cons, ← ih fun m member => legible m (List.mem_cons_of_mem _ member), View.read,
      String.toList_append, split, List.append_assoc, List.singleton_append,
      Text.splitAll_append_cons unbroken, List.foldl_cons, learns]
    rfl

end ActionBridge.Shdr
