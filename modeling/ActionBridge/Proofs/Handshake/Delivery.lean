import ActionBridge.Proofs.Handshake.Run
import Mathlib.Data.List.Nodup

/-!
# Deliveries of a chunk

A chunk may list the end of the handshake in flight before or behind its other elements, and the same
chunk may come more than once. Neither makes a difference: a chunk with the end at its first or last
place is processed with the end first, in one order for the chunk and its reversal (`step_closing`), and
a chunk that was delivered without a failure has nothing more to ask for (`Moot`), so that it is passed
over from then on (`stepAll_redelivered`).
-/
namespace ActionBridge.Handshake

variable {ω : Type} {c : Collaborators ω} {m m₁ : Machine} {w w₁ : ω} {e : Element}
  {es : List Element} {ts : List Transition} {events : List Event} {h : String}

/-! ## What is in flight -/

/-- An element that is not named so brings no handshake in flight. -/
theorem inFlight_apply_ne (absent : m.inFlight ≠ some h) (other : e.handshake ≠ h) :
    (apply c m e w).machine.inFlight ≠ some h := by
  have applies := apply_applies c m e w
  generalize apply c m e w = a at applies
  cases applies with
  | dispatched => exact fun same => other (Option.some.inj same)
  | completed => exact nofun
  | _ => exact absent

theorem inFlight_applyAll_ne (absent : m.inFlight ≠ some h) (others : ∀ e ∈ es, e.handshake ≠ h) :
    (applyAll c m es w).machine.inFlight ≠ some h := by
  induction es generalizing m w with
  | nil => exact absent
  | cons e es ih =>
    have next := inFlight_apply_ne (c := c) (w := w) absent (others e List.mem_cons_self)
    have later := ih (w := (apply c m e w).world) next
      fun e member => others e (List.mem_cons_of_mem _ member)
    unfold applyAll
    dsimp only
    split
    · exact next
    · exact later

/-- What is in flight stays there while no element is named so and none asks for an action. -/
theorem Processed.inFlight_eq (processed : Processed c m w es ts events m₁ w₁)
    (current : m.inFlight = some h) (others : ∀ e ∈ es, e.handshake ≠ h)
    (quiet : ∀ e ∈ es, e.state ≠ .active) : m₁.inFlight = some h := by
  induction processed with
  | nil => exact current
  | @cons m _ _ w _ _ e _ _ _ _ _ head _ ih =>
    simp only [List.mem_cons, forall_eq_or_imp] at others quiet
    refine ih ?_ others.2 quiet.2
    have applies := head ▸ apply_applies c m e w
    cases applies with
    | dispatched active => exact absurd active quiet.1
    | completed ready ended => exact absurd (Option.some.inj (ended.symm.trans current)) others.1
    | _ => exact current

/-! ## The end of a handshake -/

/-- A chunk that ends a handshake with its first or its last element, and names it nowhere else. -/
structure Ends (h : String) (closing : Element) (es : List Element) : Prop where
  named : es.filter (·.handshake = h) = [closing]
  ready : closing.state = .ready
  outermost : es.head? = some closing ∨ es.getLast? = some closing

namespace Ends

variable {closing : Element}

theorem handshake_eq (ends : Ends h closing es) : closing.handshake = h := by
  have member : closing ∈ es.filter (·.handshake = h) := ends.named ▸ List.mem_singleton_self closing
  exact of_decide_eq_true (List.mem_filter.mp member).2

/-- The other elements stand in one row behind the end or in front of it. -/
theorem exists_others (ends : Ends h closing es) :
    ∃ others : List Element, (∀ e ∈ others, e.handshake ≠ h) ∧
      (es = closing :: others ∨ es = others ++ [closing]) := by
  have named := ends.named
  have same := ends.handshake_eq
  have none_of {others : List Element} (none : others.filter (·.handshake = h) = []) :
      ∀ e ∈ others, e.handshake ≠ h :=
    fun e member equal => List.filter_eq_nil_iff.mp none e member (decide_eq_true equal)
  rcases ends.outermost with first | last
  · obtain ⟨others, rfl⟩ := List.head?_eq_some_iff.mp first
    simp only [List.filter_cons, same, decide_true, if_true, List.cons.injEq, true_and] at named
    exact ⟨others, none_of named, .inl rfl⟩
  · obtain ⟨others, rfl⟩ := List.getLast?_eq_some_iff.mp last
    simp only [List.filter_append, List.filter_cons, same, decide_true, if_true, List.filter_nil,
      List.append_left_eq_self] at named
    exact ⟨others, none_of named, .inr rfl⟩

end Ends

section Closing

variable {closing : Element} {others : List Element}

theorem arrange_cons (current : m.inFlight = some closing.handshake) :
    m.arrange (closing :: others) = closing :: others := by
  cases others with
  | nil => rfl
  | cons e es => exact if_pos current

/-- The end of the handshake in flight is taken from the last place to the first. -/
theorem arrange_concat (current : m.inFlight = some closing.handshake)
    (differ : ∀ e ∈ others, e.handshake ≠ closing.handshake) :
    m.arrange (others ++ [closing]) = closing :: others.reverse := by
  cases others with
  | nil => rfl
  | cons e es =>
    have another : m.inFlight ≠ some e.handshake := fun same =>
      differ e List.mem_cons_self (Option.some.inj (same.symm.trans current))
    obtain ⟨next, rest, behind⟩ : ∃ next rest, es ++ [closing] = next :: rest := by
      cases es <;> exact ⟨_, _, rfl⟩
    rw [List.cons_append, behind, Machine.arrange, if_neg another, ← behind, ← List.cons_append,
      List.reverse_append, List.reverse_singleton, List.singleton_append]

theorem applyAll_closing (current : m.inFlight = some closing.handshake)
    (ready : closing.state = .ready) :
    applyAll c m (closing :: others) w =
      let later := applyAll c ⟨none⟩ others w
      ⟨later.result.map (.completed closing.action closing.handshake :: ·), later.machine,
        announce closing.action "READY" ++ later.events, later.world⟩ := by
  have ended : apply c m closing w
      = ⟨.ok (.completed closing.action closing.handshake), ⟨none⟩,
          announce closing.action "READY", w⟩ := by
    simp [apply, ready, current]
  simp only [applyAll, ended]

end Closing

/-- A dispatch reports what was in flight, so never a handshake that was not. -/
theorem Processed.superseded_ne (processed : Processed c m w es ts events m₁ w₁)
    (absent : m.inFlight ≠ some h) (others : ∀ e ∈ es, e.handshake ≠ h)
    (action handshake result : String) :
    .dispatched action handshake result (some h) ∉ ts := by
  induction processed with
  | nil => exact List.not_mem_nil
  | @cons m m₁ _ w _ _ e _ t _ _ _ head _ ih =>
    simp only [List.mem_cons, forall_eq_or_imp] at others
    have next : m₁.inFlight ≠ some h := by
      simpa [head] using inFlight_apply_ne (c := c) (w := w) absent others.1
    rw [List.mem_cons, not_or]
    refine ⟨fun same => ?_, ih next others.2⟩
    have applies := head ▸ apply_applies c m e w
    rw [← same] at applies
    generalize reported : some h = superseded at applies
    cases applies with
    | dispatched => exact absent reported.symm

/-- A chunk that ends the handshake in flight at its first or last place ends it before all else. The
    other elements find another handshake in flight or none, none of them supersedes the one that is
    over, and the reversed chunk comes to the same. -/
theorem step_closing {closing : Element} (current : m.inFlight = some h) (ends : Ends h closing es)
    (c : Collaborators ω) (w : ω) :
    ∃ others,
      let later := applyAll c ⟨none⟩ others w
      (es = closing :: others ∨ es = others.reverse ++ [closing]) ∧
      step c m es w = ⟨later.result.map (.completed closing.action h :: ·), later.machine,
        announce closing.action "READY" ++ later.events, later.world⟩ ∧
      (∀ before e after, others = before ++ e :: after →
        (applyAll c ⟨none⟩ before w).machine.inFlight ≠ some h) ∧
      (∀ ts, (step c m es w).result = .ok ts →
        ∀ action handshake result, .dispatched action handshake result (some h) ∉ ts) ∧
      step c m es.reverse w = step c m es w := by
  obtain rfl := ends.handshake_eq
  obtain ⟨others, differ, places⟩ := ends.exists_others
  -- Both the chunk and its reversal are arranged into the end and, behind it, one order of the others.
  obtain ⟨order, differ', placed, arranged, reversed⟩ :
      ∃ order : List Element, (∀ e ∈ order, e.handshake ≠ closing.handshake) ∧
        (es = closing :: order ∨ es = order.reverse ++ [closing]) ∧
        m.arrange es = closing :: order ∧ m.arrange es.reverse = closing :: order := by
    have differR : ∀ e ∈ others.reverse, e.handshake ≠ closing.handshake :=
      fun e member => differ e (List.mem_reverse.mp member)
    rcases places with rfl | rfl
    · refine ⟨others, differ, .inl rfl, arrange_cons current, ?_⟩
      rw [List.reverse_cons, arrange_concat current differR, List.reverse_reverse]
    · refine ⟨others.reverse, differR, .inr ?_, arrange_concat current differ, ?_⟩
      · rw [List.reverse_reverse]
      · rw [List.reverse_append, List.reverse_singleton, List.singleton_append, arrange_cons current]
  have stepped : step c m es w = applyAll c m (closing :: order) w := by rw [step, arranged]
  have vacant : Machine.inFlight ⟨none⟩ ≠ some closing.handshake := nofun
  refine ⟨order, placed, ?_, ?_, ?_, ?_⟩
  · rw [stepped, applyAll_closing current ends.ready]
  · rintro before e after rfl
    exact inFlight_applyAll_ne vacant fun e member => differ' e (List.mem_append_left _ member)
  · intro ts returned action handshake result member
    rw [stepped, applyAll_closing current ends.ready] at returned
    rcases applyAll_cases c ⟨none⟩ order w with ⟨later, ended, processed⟩ | ⟨x, ended, -⟩
    · simp only [ended, Except.map, Except.ok.injEq] at returned
      subst returned
      rcases List.mem_cons.mp member with same | behind
      · cases same
      · exact processed.superseded_ne vacant differ' action handshake result behind
    · simp [ended, Except.map] at returned
  · rw [stepped, step, reversed]

/-- Collaborators of whom every goal is made and every dispatch succeeds. -/
def willing : Collaborators Unit :=
  ⟨fun action w => (.ok ⟨action, []⟩, w), fun _ w => ⟨.ok "done", [], w⟩⟩

/-- The end of a handshake comes behind a request that would supersede it. -/
theorem step_closing_last :
    let closing : Element := ⟨"load", .ready, "old"⟩
    let request : Element := ⟨"drill", .active, "new"⟩
    Machine.inFlight ⟨some "old"⟩ = some "old" ∧ Ends "old" closing [request, closing] ∧
      (step willing ⟨some "old"⟩ [request, closing] ()).result
        = .ok [.completed "load" "old", .dispatched "drill" "new" "done" none] ∧
      step willing ⟨some "old"⟩ [closing, request] ()
        = step willing ⟨some "old"⟩ [request, closing] () := by
  intro closing request
  have ends : Ends "old" closing [request, closing] := ⟨by decide, rfl, .inr rfl⟩
  obtain ⟨_, -, -, -, -, reversed⟩ := step_closing (m := ⟨some "old"⟩) rfl ends willing ()
  exact ⟨rfl, ends, by decide, reversed⟩

/-! ## Chunks delivered again -/

/-- An element that asks for nothing: the handshake that it requests is in flight, or the one that it
    ends is not. -/
structure Moot (m : Machine) (e : Element) : Prop where
  repeated : e.state = .active → m.inFlight = some e.handshake
  stale : e.state = .ready → m.inFlight ≠ some e.handshake

/-- The transition of an element that is passed over. -/
def passedOver (e : Element) : Transition := .ignored e.action e.handshake e.state.text

theorem Moot.apply_eq (moot : Moot m e) (c : Collaborators ω) (w : ω) :
    apply c m e w = ⟨.ok (passedOver e), m, [], w⟩ := by
  have requested : ¬ (e.state = .active ∧ m.inFlight ≠ some e.handshake) :=
    fun both => both.2 (moot.repeated both.1)
  have closing : ¬ (e.state = .ready ∧ m.inFlight = some e.handshake) :=
    fun both => moot.stale both.1 both.2
  rw [apply, if_neg requested, if_neg closing, passedOver]

theorem applyAll_of_moot (moot : ∀ e ∈ es, Moot m e) (c : Collaborators ω) (w : ω) :
    applyAll c m es w = ⟨.ok (es.map passedOver), m, [], w⟩ := by
  induction es with
  | nil => rfl
  | cons e es ih =>
    have later := ih fun e member => moot e (List.mem_cons_of_mem _ member)
    simp only [applyAll, (moot e List.mem_cons_self).apply_eq, later]
    rfl

theorem step_of_moot (moot : ∀ e ∈ es, Moot m e) (c : Collaborators ω) (w : ω) :
    step c m es w = ⟨.ok ((m.arrange es).map passedOver), m, [], w⟩ :=
  applyAll_of_moot (fun e member => moot e ((arrange_perm m es).mem_iff.mp member)) c w

theorem stepAll_of_moot (moot : ∀ e ∈ es, Moot m e) (c : Collaborators ω) (w : ω) (n : Nat) :
    stepAll c m (List.replicate n es) w
      = ⟨.ok (List.replicate n ((m.arrange es).map passedOver)), m, [], w⟩ := by
  induction n with
  | zero => rfl
  | succ n ih =>
    simp only [List.replicate_succ, stepAll, step_of_moot moot, ih]
    rfl

/-- A chunk whose elements have different names, and of which one at most asks for an action. -/
structure Singular (es : List Element) : Prop where
  distinct : (es.map (·.handshake)).Nodup
  single : es.countP (·.state = .active) ≤ 1

theorem Singular.of_perm {es₁ : List Element} (singular : Singular es) (perm : es₁.Perm es) :
    Singular es₁ where
  distinct := (perm.map _).nodup_iff.mpr singular.distinct
  single := perm.countP_eq _ ▸ singular.single

theorem Singular.tail (singular : Singular (e :: es)) : Singular es where
  distinct := (List.nodup_cons.mp singular.distinct).2
  single := Nat.le_trans (List.sublist_cons_self e es).countP_le singular.single

theorem Singular.handshake_ne (singular : Singular (e :: es)) : ∀ e₁ ∈ es, e₁.handshake ≠ e.handshake :=
  fun _ member same => (List.nodup_cons.mp singular.distinct).1 (List.mem_map.mpr ⟨_, member, same⟩)

theorem Singular.quiet (singular : Singular (e :: es)) (active : e.state = .active) :
    ∀ e₁ ∈ es, e₁.state ≠ .active := by
  intro e₁ member same
  have single := singular.single
  have counted : 0 < es.countP (·.state = .active) :=
    List.countP_pos_iff.mpr ⟨e₁, member, decide_eq_true same⟩
  simp only [List.countP_cons, active, decide_true, if_true] at single
  omega

/-- Whether a transition drops a request. -/
def Transition.Fails : Transition → Prop
  | .dispatchFailed .. => True
  | _ => False

/-- What an element asks for is done once it is processed without a failure. -/
theorem moot_of_apply {t : Transition} (applied : apply c m e w = ⟨.ok t, m₁, events, w₁⟩)
    (succeeds : ¬ t.Fails) : Moot m₁ e := by
  have applies := applied ▸ apply_applies c m e w
  cases applies with
  | goalFailed | dispatchFailed => exact absurd trivial succeeds
  | dispatched active => exact ⟨fun _ => rfl, fun ready => (nomatch active.symm.trans ready)⟩
  | completed ready => exact ⟨fun active => (nomatch active.symm.trans ready), fun _ => nofun⟩
  | ignored repeated stale => exact ⟨repeated, stale⟩

/-- A chunk that is processed without a failure leaves nothing to ask for. -/
theorem Processed.moot (processed : Processed c m w es ts events m₁ w₁) (singular : Singular es)
    (succeeded : ∀ t ∈ ts, ¬ t.Fails) : ∀ e ∈ es, Moot m₁ e := by
  induction processed with
  | nil => exact nofun
  | @cons _ _ _ _ w₂ _ e es _ _ _ _ head tail ih =>
    simp only [List.mem_cons, forall_eq_or_imp] at succeeded ⊢
    refine ⟨?_, ih singular.tail succeeded.2⟩
    have first := moot_of_apply head succeeded.1
    -- The elements behind have other names, so they neither end what `e` requested nor bring it back.
    refine ⟨fun active => ?_, fun ready => ?_⟩
    · exact tail.inFlight_eq (first.repeated active) singular.handshake_ne (singular.quiet active)
    · have absent := inFlight_applyAll_ne (c := c) (w := w₂) (first.stale ready) singular.handshake_ne
      rwa [tail.applyAll_eq] at absent

/-- A chunk whose elements have different names, of which one at most asks for an action, and that was
    delivered without a failure, may be delivered any number of times again, whatever the
    collaborators are by then: every element is passed over, nothing is called, and what is in flight
    stays. -/
theorem stepAll_redelivered (singular : Singular es) (returned : (step c m es w).result = .ok ts)
    (succeeded : ∀ t ∈ ts, ¬ t.Fails) {ω₁ : Type} (c₁ : Collaborators ω₁) (w₁ : ω₁) (n : Nat) :
    let m₁ := (step c m es w).machine
    stepAll c₁ m₁ (List.replicate n es) w₁
      = ⟨.ok (List.replicate n ((m₁.arrange es).map passedOver)), m₁, [], w₁⟩ := by
  intro m₁
  have perm := arrange_perm m es
  rcases applyAll_cases c m (m.arrange es) w with ⟨_, ended, processed⟩ | ⟨x, ended, -⟩
  · obtain rfl := Except.ok.inj (ended.symm.trans returned)
    have moot := processed.moot (singular.of_perm perm) succeeded
    exact stepAll_of_moot (fun e member => moot e (perm.mem_iff.mpr member)) c₁ w₁ n
  · exact nomatch ended.symm.trans returned

/-- A request and the end of another handshake, which the first delivery takes in the reversed order and
    the later ones as they are. -/
theorem stepAll_redelivered_reversed :
    let es : List Element := [⟨"drill", .active, "new"⟩, ⟨"load", .ready, "old"⟩]
    let first := step willing ⟨some "old"⟩ es ()
    Singular es ∧
      first.result = .ok [.completed "load" "old", .dispatched "drill" "new" "done" none] ∧
      stepAll willing first.machine (List.replicate 2 es) ()
        = ⟨.ok (List.replicate 2 (es.map passedOver)), ⟨some "new"⟩, [], ()⟩ := by
  intro es first
  have singular : Singular es := ⟨by decide, by decide⟩
  have returned : first.result
      = .ok [.completed "load" "old", .dispatched "drill" "new" "done" none] := by decide
  have again := stepAll_redelivered singular returned (by simp [Transition.Fails]) willing () 2
  exact ⟨singular, returned, again⟩

end ActionBridge.Handshake
