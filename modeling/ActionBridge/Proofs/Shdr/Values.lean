import ActionBridge.Proofs.Shdr.Runs

/-!
# Values by events

What an adapter holds is told by the events that happened to it: a data item has the value that was set
last (`value?_after`), and a transaction gathers if one has begun since the last one was completed
(`gathering_after`).
-/
namespace ActionBridge.Shdr.Adapter

variable {a : Adapter} {items : List String} {es : List Event} {e : Event} {item : String}

/-! ## Values that are set -/

/-- The value that an event sets for a data item. -/
def Event.valueOf? (item : String) : Event → Option String
  | .told (.set target value) => if target = item then some value else none
  | _ => none

/-- The value that events set last for a data item. -/
def lastSet? (item : String) (es : List Event) : Option String :=
  es.reverse.findSome? (Event.valueOf? item)

theorem lastSet?_append (item : String) (es later : List Event) :
    lastSet? item (es ++ later) = (lastSet? item later).or (lastSet? item es) := by
  rw [lastSet?, List.reverse_append, List.findSome?_append]
  rfl

theorem lastSet?_snoc (item : String) (es : List Event) (e : Event) :
    lastSet? item (es ++ [e]) = (e.valueOf? item).or (lastSet? item es) := by
  have last : lastSet? item [e] = e.valueOf? item := by simp [lastSet?]
  rw [lastSet?_append, last]

/-- The call on the sink that an event is, if it is one. -/
def Event.call? : Event → Option SinkCall
  | .told call => some call
  | _ => none

/-- The calls on the sink among events. -/
def callsOf (es : List Event) : List SinkCall := es.filterMap Event.call?

/-- What clients do sets no value. -/
theorem lastSet?_callsOf (item : String) (es : List Event) :
    lastSet? item ((callsOf es).map .told) = lastSet? item es := by
  induction es using List.reverseRecOn with
  | nil => rfl
  | append_singleton es e ih =>
    have split : callsOf (es ++ [e]) = callsOf es ++ callsOf [e] := List.filterMap_append
    rw [split, List.map_append, lastSet?_append, lastSet?_append, ih]
    cases e <;> rfl

theorem lastSet?_transaction (told item value : String) :
    lastSet? item ((transaction told value).map .told) = if told = item then some value else none := by
  by_cases same : told = item <;>
    simp [lastSet?, transaction, Event.valueOf?, List.findSome?_cons, same]

theorem value?_assigned (known : item ∈ a.names) (target value : String) :
    (a.assigned target value).value? item = if target = item then some value else a.value? item := by
  rw [assigned]
  cases found : Assoc.get? target a.items with
  | none =>
    have absent : target ∉ a.names := Assoc.notMem_keys_of_get?_eq_none found
    have other : target ≠ item := fun same => absent (same ▸ known)
    rw [if_neg other]
  | some slot =>
    by_cases same : target = item
    · subst same
      have assign : (slot.assign value).value = some value := by
        rw [Slot.assign]
        split
        · assumption
        · rfl
      rw [if_pos rfl, value?, Assoc.get?_put_self, Option.bind_some, assign]
    · rw [if_neg same, value?, Assoc.get?_put_of_ne (Ne.symm same)]
      rfl

theorem value?_taken (known : item ∈ a.names) (call : SinkCall) :
    (a.taken call).value? item = ((Event.told call).valueOf? item).or (a.value? item) := by
  cases call with
  | begin => rfl
  | complete => rfl
  | set target value =>
    rw [taken, value?_assigned known, Event.valueOf?]
    split <;> rfl

theorem value?_step (known : item ∈ a.names) (e : Event) :
    (a.step e).1.value? item = (e.valueOf? item).or (a.value? item) := by
  have takes := step_takes a e
  generalize a.step e = result at takes ⊢
  cases takes with
  | waits early => exact value?_taken known _
  | sends due => exact (value?_settled _ item).trans (value?_taken known _)
  | joins | answers | ignores | breaks | leaves | gone => rfl

/-- The value of a data item is the one that was set last. -/
theorem value?_after (sound : Sound items a) (known : item ∈ items) (es : List Event) :
    (a.after es).value? item = (lastSet? item es).or (a.value? item) := by
  induction es using List.reverseRecOn with
  | nil => rfl
  | append_singleton es e ih =>
    have here : item ∈ (a.after es).names := (sound.after es).names ▸ known
    rw [after_append, after_one, value?_step here, ih, lastSet?_snoc, Option.or_assoc]

/-- A data item that is none of the adapter's has no value. -/
theorem value?_of_notMem (unknown : item ∉ a.names) :
    a.value? item = none := by
  rw [value?]
  cases found : Assoc.get? item a.items with
  | none => rfl
  | some slot => exact absurd (Assoc.mem_keys_of_get?_eq_some found) unknown

/-- What is set of an unknown data item does not count. -/
theorem value?_after_eq (sound : Sound items a) (item : String) (es : List Event) :
    (a.after es).value? item
      = if item ∈ items then (lastSet? item es).or (a.value? item) else a.value? item := by
  split
  · rename_i known
    exact value?_after sound known es
  · rename_i unknown
    have before : item ∉ a.names := sound.names ▸ unknown
    have later : item ∉ (a.after es).names := (sound.after es).names ▸ unknown
    rw [value?_of_notMem before, value?_of_notMem later]

theorem isSome_lastSet? {value : String} (member : .told (.set item value) ∈ es) :
    (lastSet? item es).isSome := by
  have set : Event.valueOf? item (.told (.set item value)) = some value := if_pos rfl
  rw [lastSet?, List.findSome?_isSome_iff]
  exact ⟨_, List.mem_reverse.mpr member, by rw [set]; rfl⟩

theorem lastSet?_begin (item : String) (es : List Event) :
    lastSet? item (.told .begin :: es) = lastSet? item es :=
  (lastSet?_append item [.told .begin] es).trans Option.or_none

/-! ## Gathering -/

/-- Whether a transaction gathers after an event. -/
def Event.gathers (gathering : Bool) : Event → Bool
  | .told .begin => true
  | .told .complete => false
  | _ => gathering

/-- Whether a transaction gathers after events: one has begun, and none was completed since. -/
def gathersAfter (es : List Event) : Bool := es.foldl Event.gathers false

theorem gathering_step (a : Adapter) (e : Event) : (a.step e).1.gathering = e.gathers a.gathering := by
  have taken (call : SinkCall) : (a.taken call).gathering = (Event.told call).gathers a.gathering := by
    cases call with
    | begin => rfl
    | complete => rfl
    | set item value =>
      rw [Adapter.taken, assigned]
      split <;> rfl
  have takes := step_takes a e
  generalize a.step e = result at takes ⊢
  cases takes with
  | waits early => exact taken _
  | sends due => exact taken _
  | joins | answers | ignores | breaks | leaves | gone => rfl

theorem gathering_after (a : Adapter) (es : List Event) :
    (a.after es).gathering = es.foldl Event.gathers a.gathering := by
  induction es generalizing a with
  | nil => rfl
  | cons e es ih => exact (ih (a.step e).1).trans (congrArg (es.foldl Event.gathers) (gathering_step a e))

end ActionBridge.Shdr.Adapter
