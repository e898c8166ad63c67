import ActionBridge.Proofs.Http.Url
import Mathlib.Data.Nat.Find
import Mathlib.Order.Bounds.Basic

/-!
# What a script answers

The answer to the `n`-th request of a kind is said by the script alone (`Network.answer`), and requests
of other kinds do not change it (`answer_after`). An answer that comes at all comes before the
script is at its end (`le_remaining`), so the number of requests that a wait may make is enough.
-/
namespace ActionBridge.Http

/-! ## One request -/

/-- The answer to the request of a kind that `n` others of the kind come before. -/
def Network.answer (s : Network) (line : Line) (n : Nat) : Response :=
  let responses := (Assoc.get? line s.scripts).getD []
  (responses[n]?).getD (responses.getLast?.getD notFound)

/-- The two ways in which a request is answered: the script goes on to its next response, or it is at
    its end and the answer stays the same. -/
theorem respond_cases (s : Network) (r : Request) :
    (∃ next rest, Assoc.get? r.line s.scripts = some (next :: rest) ∧ rest ≠ [] ∧ s.respond r =
        (next, { s with scripts := Assoc.put r.line rest s.scripts, requests := s.requests ++ [r] })) ∨
      (∀ n, s.answer r.line (n + 1) = s.answer r.line n) ∧
        s.respond r = (s.answer r.line 0, { s with requests := s.requests ++ [r] }) := by
  rcases found : Assoc.get? r.line s.scripts with - | - | ⟨first, - | ⟨second, rest⟩⟩
  · exact .inr ⟨fun n => by simp [Network.answer, found], by simp [Network.respond, Network.answer, found]⟩
  · exact .inr ⟨fun n => by simp [Network.answer, found], by simp [Network.respond, Network.answer, found]⟩
  · refine .inr ⟨fun n => ?_, by simp [Network.respond, Network.answer, found]⟩
    cases n <;> simp [Network.answer, found]
  · exact .inl ⟨first, second :: rest, rfl, List.cons_ne_nil _ _, by simp [Network.respond, found]⟩

theorem fst_respond (s : Network) (r : Request) : (s.respond r).1 = s.answer r.line 0 := by
  rcases respond_cases s r with ⟨next, rest, found, -, responds⟩ | ⟨-, responds⟩
  · rw [responds, Network.answer, found]
    rfl
  · rw [responds]

theorem requests_respond (s : Network) (r : Request) : (s.respond r).2.requests = s.requests ++ [r] := by
  rcases respond_cases s r with ⟨next, rest, -, -, responds⟩ | ⟨-, responds⟩ <;> rw [responds]

theorem listening_respond (s : Network) (r : Request) : (s.respond r).2.listening = s.listening := by
  rcases respond_cases s r with ⟨next, rest, -, -, responds⟩ | ⟨-, responds⟩ <;> rw [responds]

/-- A request takes one answer of its own kind, and none of any other. -/
theorem answer_respond (s : Network) (r : Request) (line : Line) (n : Nat) :
    (s.respond r).2.answer line n = s.answer line (if r.line = line then n + 1 else n) := by
  rcases respond_cases s r with ⟨next, rest, found, more, responds⟩ | ⟨stays, responds⟩
  · rw [responds]
    split
    · next same =>
      subst same
      obtain ⟨second, rest, rfl⟩ := List.exists_cons_of_ne_nil more
      simp only [Network.answer, found, Assoc.get?_put_self, Option.getD_some, List.getElem?_cons_succ,
        List.getLast?_cons_cons]
    · next other => simp only [Network.answer, Assoc.get?_put_of_ne (Ne.symm other)]
  · rw [responds]
    split
    · next same =>
      subst same
      exact (stays n).symm
    · rfl

/-! ## Requests in a row -/

/-- The server behind requests. -/
def Network.after (s : Network) (requests : List Request) : Network :=
  requests.foldl (fun s r => (s.respond r).2) s

/-- What a server answers to requests one after the other. -/
def Network.answersTo : Network → List Request → List Response
  | _, [] => []
  | s, r :: rs => (s.respond r).1 :: (s.respond r).2.answersTo rs

theorem after_append (s : Network) (first second : List Request) :
    s.after (first ++ second) = (s.after first).after second := List.foldl_append

theorem requests_after (s : Network) (requests : List Request) :
    (s.after requests).requests = s.requests ++ requests := by
  induction requests generalizing s with
  | nil => exact (List.append_nil _).symm
  | cons r requests ih =>
    have one : s.after (r :: requests) = (s.respond r).2.after requests := rfl
    rw [one, ih, requests_respond, List.append_assoc, List.singleton_append]

theorem listening_after (s : Network) (requests : List Request) :
    (s.after requests).listening = s.listening := by
  induction requests generalizing s with
  | nil => rfl
  | cons r requests ih => exact (ih (s.respond r).2).trans (listening_respond s r)

/-- Requests take as many answers of a kind as there are of that kind among them. -/
theorem answer_after (s : Network) (requests : List Request) (line : Line) (n : Nat) :
    (s.after requests).answer line n = s.answer line (n + (requests.map Request.line).count line) := by
  induction requests generalizing s with
  | nil => rfl
  | cons r requests ih =>
    have one : s.after (r :: requests) = (s.respond r).2.after requests := rfl
    rw [one, ih, answer_respond, List.map_cons, List.count_cons]
    by_cases same : r.line = line <;> simp [same, Nat.add_assoc]

theorem answer_after_singleton (s : Network) (r : Request) (n : Nat) :
    (s.after [r]).answer r.line n = s.answer r.line (n + 1) := by
  rw [answer_after, List.map_singleton, List.count_singleton_self]

theorem answer_after_of_notMem (s : Network) {requests : List Request} {line : Line}
    (other : line ∉ requests.map Request.line) (n : Nat) :
    (s.after requests).answer line n = s.answer line n := by
  rw [answer_after, List.count_eq_zero_of_not_mem other, Nat.add_zero]

theorem leads?_after (s : Network) (requests : List Request) (u : Url) :
    (s.after requests).leads? u = s.leads? u := by
  rw [Network.leads?, listening_after, Network.leads?]

theorem target?_after (s : Network) (requests : List Request) (url : String) :
    (s.after requests).target? url = s.target? url := by
  rw [Network.target?, funext (leads?_after s requests), Network.target?]

theorem Network.Serves.after {s : Network} {root : String} {folder : Target}
    (serves : s.Serves root folder) (requests : List Request) : (s.after requests).Serves root folder := by
  obtain ⟨u, read, whole, leads⟩ := serves
  exact ⟨u, read, whole, (leads?_after s requests u).trans leads⟩

/-! ## Scripts that end -/

/-- An answer of some sort that comes first at `n` is in the script, or the one behind its end. -/
theorem le_remaining {s : Network} {line : Line} {p : Response → Prop} {n : Nat}
    (least : IsLeast {k | p (s.answer line k)} n) : n ≤ s.remaining line := by
  by_contra beyond
  have behind : s.remaining line < n := Nat.lt_of_not_le beyond
  have same : s.answer line (s.remaining line) = s.answer line n := by
    unfold Network.answer Network.remaining at *
    cases found : Assoc.get? line s.scripts with
    | none => simp
    | some responses =>
      rw [found] at behind
      simp only at behind
      simp only [Option.getD_some, List.getElem?_eq_none (Nat.le_refl _),
        List.getElem?_eq_none (Nat.le_of_lt behind)]
  have holds : p (s.answer line (s.remaining line)) := same ▸ least.1
  exact absurd (least.2 holds) (Nat.not_le_of_lt behind)

theorem exists_isLeast {p : Nat → Prop} (some : ∃ n, p n) : ∃ n, IsLeast {k | p k} n := by
  classical
  exact ⟨Nat.find some, Nat.find_spec some, fun k holds => Nat.find_min' some holds⟩

/-- Where a later answer is the first of some sort the next one is not, and the rest of the wait is
    one request shorter. -/
theorem isLeast_after {s : Network} {r : Request} {p : Response → Prop} {n : Nat}
    (least : IsLeast {k | p (s.answer r.line k)} (n + 1)) :
    ¬ p (s.answer r.line 0) ∧ IsLeast {k | p ((s.after [r]).answer r.line k)} n := by
  have next (k : Nat) := answer_after_singleton s r k
  refine ⟨fun holds => absurd (least.2 holds) (Nat.not_succ_le_zero n), ?_, fun k holds => ?_⟩
  · show p _
    rw [next]
    exact least.1
  · have later : n + 1 ≤ k + 1 := least.2 (show p _ from next k ▸ holds)
    exact Nat.le_of_succ_le_succ later

/-! ## Calls -/

/-- The response, if the client goes on with it. -/
def heard? (r : Response) : Option Response := r.received.toOption.filter (·.status < 400)

theorem accepted_cases (r : Response) :
    (∃ heard, heard? r = some heard ∧ ∀ shown, r.accepted shown = .ok heard) ∨
      heard? r = none ∧ ∀ shown, ∃ fault, r.accepted shown = .error fault := by
  unfold heard? Response.accepted
  cases r.received with
  | error fault => exact .inr ⟨rfl, fun shown => ⟨_, rfl⟩⟩
  | ok heard =>
    by_cases good : heard.status < 400
    · exact .inl ⟨heard, by simp [Except.toOption, good], fun shown => by simp [good]⟩
    · have bad : 400 ≤ heard.status := Nat.le_of_not_lt good
      exact .inr ⟨by simp [Except.toOption, bad], fun shown => by simp [bad]⟩

/-- An answer of the status 200. -/
def IsOk (r : Response) : Prop := ∃ heard ∈ heard? r, heard.status = 200

instance (r : Response) : Decidable (IsOk r) := inferInstanceAs (Decidable (∃ heard ∈ _, _))

/-- An answer is of the status 200, or the client goes on with one of another status, or fails. -/
theorem isOk_cases (r : Response) :
    (∃ heard ∈ heard? r, heard.status = 200 ∧ ∀ shown, r.accepted shown = .ok heard) ∨
      ¬ IsOk r ∧ ((∃ heard, heard.status ≠ 200 ∧ ∀ shown, r.accepted shown = .ok heard) ∨
        ∀ shown, ∃ fault, r.accepted shown = .error fault) := by
  rcases accepted_cases r with ⟨heard, hears, accepts⟩ | ⟨deaf, fails⟩
  · by_cases ok : heard.status = 200
    · exact .inl ⟨heard, hears, ok, accepts⟩
    · refine .inr ⟨?_, .inl ⟨heard, ok, accepts⟩⟩
      rintro ⟨heard', hears', ok'⟩
      obtain rfl : heard = heard' := Option.some.inj (hears.symm.trans hears')
      exact ok ok'
  · refine .inr ⟨?_, .inr fails⟩
    rintro ⟨heard, hears, -⟩
    rw [deaf] at hears
    nomatch hears

/-- A call of a URL that leads to a server is one request, answered by the script. -/
theorem call_of_target? {s : Network} {url : String} {target : Target}
    (leads : s.target? url = some target) :
    ∃ shown, ∀ method body, s.call method url body =
      ((s.answer (Request.line ⟨method, target, body⟩) 0).accepted shown,
        s.after [⟨method, target, body⟩]) := by
  unfold Network.target? at leads
  cases read : Url.ofText url with
  | error fault => simp [read, Except.toOption] at leads
  | ok u =>
    rw [read] at leads
    have leads : s.leads? u = some target := leads
    refine ⟨u.text, fun method body => ?_⟩
    have web : ¬ (u.scheme ≠ "http" ∧ u.scheme ≠ "https") := fun other =>
      other.1 (leads?_eq_some_iff.mp leads).1
    simp only [Network.call, read, if_neg web, leads, fst_respond]
    rfl

/-- A call of a URL that leads to no server fails without a request. -/
theorem call_of_target?_eq_none {s : Network} {url : String} (astray : s.target? url = none) :
    ∃ fault, ∀ method body, s.call method url body = (.error fault, s) := by
  unfold Network.target? at astray
  cases read : Url.ofText url with
  | error fault => exact ⟨.badUrl fault, fun method body => by simp only [Network.call, read]⟩
  | ok u =>
    rw [read] at astray
    have astray : s.leads? u = none := astray
    by_cases web : u.scheme ≠ "http" ∧ u.scheme ≠ "https"
    · exact ⟨.unknownScheme u.text u.scheme, fun method body => by
        simp only [Network.call, read, if_pos web]⟩
    · exact ⟨.refused u.text, fun method body => by
        simp only [Network.call, read, if_neg web, astray]⟩

theorem patience_pos (s : Network) (method url : String) : 0 < s.patience method url := by
  unfold Network.patience
  split <;> omega

theorem patience_of_target? {s : Network} {url : String} {target : Target}
    (leads : s.target? url = some target) (method body : String) :
    s.patience method url = s.remaining (Request.line ⟨method, target, body⟩) + 1 := by
  have leads : (Url.ofText url).toOption.bind s.leads? = some target := leads
  simp only [Network.patience, leads]
  rfl

/-- What a wait may ask is enough for the first answer of any sort, if there is one. -/
theorem lt_patience {s : Network} {url method body : String} {target : Target}
    {p : Response → Prop} {n : Nat}
    (leads : s.target? url = some target)
    (least : IsLeast {k | p (s.answer (Request.line ⟨method, target, body⟩) k)} n) :
    n < s.patience method url := by
  rw [patience_of_target? leads method body]
  exact Nat.lt_succ_of_le (le_remaining least)

/-! ## A server without folders -/

/-- What `http://a` is the URL of. -/
def hostA : Target := ⟨⟨.name "a", 80⟩, ""⟩

theorem serves_hostA {s : Network} (listens : hostA.address ∈ s.listening) : s.Serves "http://a" hostA := by
  refine ⟨⟨"http", "", .name "a", none, "/", none, none⟩, by decide +kernel, rfl, ?_⟩
  exact leads?_eq_some_iff.mpr ⟨rfl, rfl, listens, rfl⟩

end ActionBridge.Http
