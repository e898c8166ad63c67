import ActionBridge.Proofs.Bridge.Following
import ActionBridge.Proofs.Document.Excerpt

/-!
# Dropped chunks

A chunk is dropped exactly if it has a flaw, and nothing comes of it but the report
(`drops_of_flaw`). So a run does what it does without such chunks (`receiveEach_filter_legible`),
wherever among the others they stand.
-/
namespace ActionBridge.Bridge
open Handshake

variable {ω : Type}

/-! ## One chunk -/

/-- Whether an excerpt can be made of a chunk. -/
def legible (b : Bridge ω) (chunk : List UInt8) : Bool :=
  (Excerpt.parseBytes b.space b.watched chunk).isOk

/-- Whether a chunk was dropped. -/
def Reception.isDropped : Reception → Bool
  | .dropped _ => true
  | .processed _ | .crashed _ => false

/-- A chunk is reported as dropped, and nothing else comes of it in any state. -/
def Drops (b : Bridge ω) (chunk : List UInt8) (fault : ParseFault) : Prop :=
  ∀ l w, b.onChunk l chunk w = ⟨.dropped fault, l, [], w⟩

variable {b : Bridge ω} {chunk : List UInt8}

theorem drops_of_parseBytes {fault : ParseFault}
    (unread : Excerpt.parseBytes b.space b.watched chunk = .error fault) : Drops b chunk fault := by
  intro l w
  have received : b.receive l.machine chunk w = ⟨.dropped fault, l.machine, [], w⟩ := by
    rw [receive, unread]
  rw [onChunk_eq, received, Reception.isPanic, Bool.or_false]

theorem isDropped_onChunk (b : Bridge ω) (l : Lock) (chunk : List UInt8) (w : ω) :
    (b.onChunk l chunk w).outcome.isDropped = !b.legible chunk := by
  rw [onChunk_eq]
  have receives := receive_receives b l.machine chunk w
  generalize b.receive l.machine chunk w = h at receives
  cases receives with
  | dropped unread => rw [legible, unread]; rfl
  | processed read processed => rw [legible, read]; rfl
  | crashed read crashed => rw [legible, read]; rfl

theorem exists_drops_of_not_legible (illegible : b.legible chunk = false) :
    ∃ fault, Excerpt.Flaw b.space b.watched chunk fault ∧ Drops b chunk fault := by
  cases read : Excerpt.parseBytes b.space b.watched chunk with
  | error fault => exact ⟨fault, Excerpt.flaw_of_parseBytes read, drops_of_parseBytes read⟩
  | ok excerpt =>
    rw [legible, read] at illegible
    nomatch illegible

theorem not_legible_iff :
    b.legible chunk = false ↔ ∃ fault, Excerpt.Flaw b.space b.watched chunk fault := by
  rw [← Excerpt.exists_error_iff, legible]
  cases Excerpt.parseBytes b.space b.watched chunk with
  | error fault => exact ⟨fun _ => ⟨fault, rfl⟩, fun _ => rfl⟩
  | ok excerpt => exact ⟨nofun, fun ⟨fault, failed⟩ => nomatch failed⟩

/-- A chunk with a flaw is dropped, and one of its flaws is reported. -/
theorem drops_of_flaw {fault : ParseFault} (flaw : Excerpt.Flaw b.space b.watched chunk fault) :
    ∃ reported, Excerpt.Flaw b.space b.watched chunk reported ∧ Drops b chunk reported :=
  exists_drops_of_not_legible (not_legible_iff.mpr ⟨fault, flaw⟩)

/-! ## Runs -/

/-- A run without the chunks that are dropped: the reports of these are missing, nothing else. -/
theorem receiveEach_filter_legible (b : Bridge ω) (l : Lock) (chunks : List (List UInt8)) (w : ω) :
    let whole := b.receiveEach l chunks w
    b.receiveEach l (chunks.filter b.legible) w
      = ⟨whole.outcomes.filter (!·.isDropped), whole.lock, whole.events, whole.world⟩ := by
  induction chunks generalizing l w with
  | nil => rfl
  | cons chunk chunks ih =>
    have reported := isDropped_onChunk b l chunk w
    cases readable : b.legible chunk with
    | true =>
      rw [readable] at reported
      rw [List.filter_cons_of_pos readable]
      by_cases goesOn : (b.onChunk l chunk w).outcome.goesOn = true
      · simp only [receiveEach_cons goesOn, ih, List.filter_cons, reported, Bool.not_true, Bool.not_false,
          if_true]
      · simp only [receiveEach_cons_of_not goesOn, List.filter_cons, reported, Bool.not_true,
          Bool.not_false, if_true, List.filter_nil]
    | false =>
      -- The later chunks find the lock and the world as they are without this one.
      obtain ⟨fault, flaw, drops⟩ := exists_drops_of_not_legible readable
      have goesOn : (b.onChunk l chunk w).outcome.goesOn = true := by rw [drops]; rfl
      rw [List.filter_cons_of_neg (by simp [readable]), ih, receiveEach_cons goesOn]
      simp only [drops l w, List.nil_append, List.filter_cons, Reception.isDropped, Bool.not_true,
        Bool.false_eq_true, if_false]

theorem transitions_filter_isDropped (outcomes : List Reception) :
    (outcomes.filter (!·.isDropped)).flatMap Reception.transitions
      = outcomes.flatMap Reception.transitions := by
  induction outcomes with
  | nil => rfl
  | cons outcome outcomes ih =>
    rw [List.flatMap_cons, ← ih]
    cases outcome with
    | dropped fault => rfl
    | processed ts => rfl
    | crashed x => rfl

/-- A run is what it is without the chunks of which no excerpt can be made: the handshake in flight,
    the calls on the goal source, the dispatcher and the sink with their answers, the transitions and
    the world are the same, and only the reports of these chunks are missing. They are the chunks that
    have a flaw, be it behind any number of elements in order, and each is reported as dropped for a
    flaw that it has, in whichever state it comes. -/
theorem receiveEach_drops (b : Bridge ω) (l : Lock) (chunks : List (List UInt8)) (w : ω) :
    (let whole := b.receiveEach l chunks w
      let rest := b.receiveEach l (chunks.filter b.legible) w
      rest.lock = whole.lock ∧ rest.events = whole.events ∧
        rest.transitions = whole.transitions ∧ rest.world = whole.world ∧
        rest.outcomes = whole.outcomes.filter (!·.isDropped)) ∧
      ∀ chunk, (b.legible chunk = false ↔ ∃ fault, Excerpt.Flaw b.space b.watched chunk fault) ∧
        ∀ fault, Excerpt.Flaw b.space b.watched chunk fault →
          ∃ reported, Excerpt.Flaw b.space b.watched chunk reported ∧ Drops b chunk reported := by
  refine ⟨?_, fun chunk => ⟨not_legible_iff, fun fault => drops_of_flaw⟩⟩
  intro whole rest
  have same : rest
      = ⟨whole.outcomes.filter (!·.isDropped), whole.lock, whole.events, whole.world⟩ :=
    receiveEach_filter_legible b l chunks w
  rw [same]
  exact ⟨rfl, rfl, transitions_filter_isDropped whole.outcomes, rfl, rfl⟩

/-- A bridge to two actions that are done at once. -/
def pairBridge : Bridge Unit where
  registry := Registry.ofSchemas
    [⟨"urn:m", "load", "Material", [], none⟩, ⟨"urn:m", "unload", "Material", [], none⟩]
  space := "urn:m"
  collaborators := ⟨fun action w => (.ok ⟨action, []⟩, w), fun _ w => ⟨.ok "done", [], w⟩⟩

/-- The request in front of an element without a name is not acted on: the run is that of the other
    chunk alone. -/
theorem receiveEach_drops_nameless :
    let spoiled := (pageOf "<load name=\"h\">ACTIVE</load><unload>READY</unload>").body
    let sound := (pageOf "<load name=\"k\">ACTIVE</load>").body
    Excerpt.Flaw pairBridge.space pairBridge.watched spoiled (.nameMissing "unload") ∧
      (∃ reported, Excerpt.Flaw pairBridge.space pairBridge.watched spoiled reported ∧
        Drops pairBridge spoiled reported) ∧
      (pairBridge.receiveEach {} [spoiled, sound] ()).transitions
        = [.dispatched "load" "k" "done" none] := by
  intro spoiled sound
  obtain ⟨run, chunk⟩ := receiveEach_drops pairBridge {} [spoiled, sound] ()
  have flaw : Excerpt.Flaw pairBridge.space pairBridge.watched spoiled (.nameMissing "unload") :=
    Excerpt.flaw_of_parseBytes (by decide +kernel)
  have kept : [spoiled, sound].filter pairBridge.legible = [sound] := by decide +kernel
  refine ⟨flaw, (chunk spoiled).2 _ flaw, ?_⟩
  rw [← run.2.2.1, kept]
  decide +kernel

end ActionBridge.Bridge
