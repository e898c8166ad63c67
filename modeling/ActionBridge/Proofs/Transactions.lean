import ActionBridge.Action.Lifecycle
import ActionBridge.Proofs.Assoc

/-!
# Whole transactions

What reaches the sink outside of the announcement of all data items is a list of transactions of
one update each (`Transactional`). Such a list opens no transaction inside of another one, sets
nothing outside of one, and leaves none open (`Transactional.brackets`).
-/
namespace ActionBridge

/-! ## Lists of transactions -/

/-- Data items set one after the other, each in a transaction of its own. -/
def transactions (updates : List (String × String)) : List SinkCall :=
  updates.flatMap fun u => transaction u.1 u.2

/-- Whether calls are whole transactions of one update each. -/
def Transactional (calls : List SinkCall) : Prop := ∃ updates, calls = transactions updates

theorem transactional_nil : Transactional [] := ⟨[], rfl⟩

theorem transactional_transaction (item value : String) : Transactional (transaction item value) :=
  ⟨[(item, value)], rfl⟩

theorem Transactional.append {calls calls₁ : List SinkCall} (first : Transactional calls)
    (second : Transactional calls₁) : Transactional (calls ++ calls₁) := by
  obtain ⟨updates, rfl⟩ := first
  obtain ⟨updates₁, rfl⟩ := second
  exact ⟨updates ++ updates₁, List.flatMap_append.symm⟩

/-! ## Brackets -/

/-- Whether a transaction is open after a call, if the call is in its place. -/
def SinkCall.bracket : (opened : Bool) → SinkCall → Option Bool
  | false, .begin => some true
  | true, .set _ _ => some true
  | true, .complete => some false
  | _, _ => none

/-- Every call is in its place, and no transaction is left open. -/
def Bracketed (calls : List SinkCall) : Prop := calls.foldlM SinkCall.bracket false = some false

theorem Transactional.brackets {calls : List SinkCall} (whole : Transactional calls) :
    Bracketed calls := by
  obtain ⟨updates, rfl⟩ := whole
  induction updates with
  | nil => rfl
  | cons u updates ih =>
    have split : transactions (u :: updates) = transaction u.1 u.2 ++ transactions updates := rfl
    rw [Bracketed, split, List.foldlM_append]
    exact ih

/-! ## Dispatches -/

/-- Each acceptance is announced in a transaction. -/
theorem transactional_acceptances (announceActive : Bool) (item : String) (accepted : Nat) :
    Transactional (acceptances announceActive item accepted) := by
  cases announceActive with
  | false => exact transactional_nil
  | true =>
    refine ⟨List.replicate accepted (item, "ACTIVE"), ?_⟩
    rw [acceptances, if_pos rfl, transactions, List.flatMap_replicate]

variable {ω σ : Type} (connector : Connector ω σ)

/-- How many times the client of a goal tells that it is accepted, however the dispatch ends. -/
def timesAccepted (s : Goal.Schema) (goal : Goal) (w : ω) : Nat :=
  match connector.connect s w with
  | (.ok client, w) =>
    let up := connector.awaitServer client w
    match up.outcome with
    | .ok () => (connector.submit goal up.client up.world).accepted
    | _ => 0
  | _ => 0

theorem acceptances_zero (announceActive : Bool) (item : String) :
    acceptances announceActive item 0 = [] := by
  cases announceActive <;> rfl

/-- A dispatch tells the sink of acceptances only, however it ends. -/
theorem calls_runGoal (s : Goal.Schema) (announceActive : Bool) (goal : Goal) (w : ω) :
    (runGoal connector s announceActive goal w).calls =
      acceptances announceActive s.dataItem (timesAccepted connector s goal w) := by
  unfold runGoal timesAccepted
  rcases connector.connect s w with ⟨client | err | x, w₁⟩
  · dsimp only
    cases (connector.awaitServer client w₁).outcome with
    | crash x => exact (acceptances_zero announceActive s.dataItem).symm
    | error err => exact (acceptances_zero announceActive s.dataItem).symm
    | ok up =>
      dsimp only
      split <;> rfl
  · exact (acceptances_zero announceActive s.dataItem).symm
  · exact (acceptances_zero announceActive s.dataItem).symm

/-- How many times a goal is accepted of which the dispatcher of a registry takes care. -/
def timesAcceptedBy (r : Registry) (goal : Goal) (w : ω) : Nat :=
  match r.get? goal.action with
  | some s => if goal.fields.length = s.fields.length then timesAccepted connector s goal w else 0
  | none => 0

theorem Registry.action_of_get? {r : Registry} {action : String} {s : Goal.Schema}
    (found : r.get? action = some s) : s.action = action :=
  r.keyed _ (Assoc.mem_of_get?_eq_some found)

/-- A dispatch announces each acceptance on the data item of the goal's action, and nothing else. -/
theorem calls_dispatchAction (r : Registry) (announceActive : Bool) (goal : Goal) (w : ω) :
    (dispatchAction connector r announceActive goal w).calls =
      acceptances announceActive (DataItem.name goal.action) (timesAcceptedBy connector r goal w) := by
  unfold dispatchAction timesAcceptedBy
  cases found : r.get? goal.action with
  | none => exact (acceptances_zero announceActive _).symm
  | some s =>
    have item : s.dataItem = DataItem.name goal.action :=
      congrArg DataItem.name (Registry.action_of_get? found)
    by_cases fits : goal.fields.length = s.fields.length
    · simp only [fits, ne_eq, not_true_eq_false, if_true, if_false]
      rw [calls_runGoal, item]
    · simp only [fits, ne_eq, not_false_eq_true, if_true, if_false]
      exact (acceptances_zero announceActive _).symm

theorem transactional_dispatchAction (r : Registry) (announceActive : Bool) (goal : Goal) (w : ω) :
    Transactional (dispatchAction connector r announceActive goal w).calls := by
  rw [calls_dispatchAction]
  exact transactional_acceptances announceActive _ _

end ActionBridge
