import ActionBridge.Agent
import ActionBridge.Proofs.Http.Script

/-!
# Requests to the agent

Each question to an agent is one request, whose path is written behind the URL of the agent as it is.
Nothing but an answer of the status 200 counts (`Agent.fetch_cases`).
-/
namespace ActionBridge.Agent
open Http

/-! ## Paths -/

theorem isPathChar_toString (n : Nat) : ∀ c ∈ (toString n).toList, isPathChar c = true := by
  intro c member
  rw [Nat.toString_eq_repr, Nat.toList_repr] at member
  have digit : c.isDigit = true := Nat.isDigit_of_mem_toDigits (by decide) (by decide) member
  exact isPathChar_of_isUnreserved (by simp [isUnreserved, Char.isAlphanum, digit])

def plainPath_current : PlainPath "/current" :=
  .ofSegments ["current".toList] (by decide) (List.cons_ne_nil _ _)
    (List.forall_mem_singleton.mpr (by decide))

theorem toList_streamPath (a : Agent) (sequence : String) :
    (a.streamPath sequence).toList = slashed ["sample".toList]
      ++ '?' :: ("interval=".toList ++ ((toString a.interval).toList ++ ("&count=".toList
        ++ ((toString a.count).toList ++ ("&from=".toList ++ sequence.toList))))) := by
  have cut : "/sample?interval=".toList = slashed ["sample".toList] ++ '?' :: "interval=".toList := by
    decide
  unfold streamPath
  rw [String.toList_append, String.toList_append, String.toList_append, String.toList_append,
    String.toList_append, cut]
  simp only [List.append_assoc, List.cons_append]

/-- The path of the stream has no part that is written otherwise in a URL, if the sequence number has
    none. -/
def plainPath_stream (a : Agent) {sequence : String}
    (plain : ∀ c ∈ sequence.toList, isUnreserved c = true) : PlainPath (a.streamPath sequence) where
  segments := ["sample".toList]
  query := "interval=".toList ++ ((toString a.interval).toList ++ ("&count=".toList
    ++ ((toString a.count).toList ++ ("&from=".toList ++ sequence.toList))))
  written := by
    rw [queryChars_of_ne_nil (List.append_ne_nil_of_left_ne_nil (by decide) _)]
    exact toList_streamPath a sequence
  more := List.cons_ne_nil _ _
  plain := List.forall_mem_singleton.mpr (by decide)
  plainQuery := by
    have interval : "interval=".toList.all isPathChar = true := by decide
    have count : "&count=".toList.all isPathChar = true := by decide
    have sequence : "&from=".toList.all isPathChar = true := by decide
    simp only [List.forall_mem_append]
    exact ⟨List.all_eq_true.mp interval, isPathChar_toString _, List.all_eq_true.mp count,
      isPathChar_toString _, List.all_eq_true.mp sequence,
      fun c member => isPathChar_of_isUnreserved (plain c member)⟩

/-! ## Requests -/

/-- The question for the current document of an agent in a folder. -/
def currentRequest (folder : Target) : Request := ⟨"GET", folder ++ "/current", ""⟩

/-- The question for the stream from a sequence number on. -/
def streamRequest (a : Agent) (folder : Target) (sequence : String) : Request :=
  ⟨"GET", folder ++ a.streamPath sequence, ""⟩

theorem line_streamRequest_ne (a : Agent) (folder : Target) (sequence : String) :
    (a.streamRequest folder sequence).line ≠ (currentRequest folder).line := by
  intro same
  have texts := congrArg Line.text same
  have paths : a.streamPath sequence = "/current" := by
    simpa [Request.line, streamRequest, currentRequest] using texts
  have chars := congrArg (fun path : String => path.toList.take 2) paths
  have sample : slashed ["sample".toList] = ['/', 's', 'a', 'm', 'p', 'l', 'e'] := by decide
  simp only [toList_streamPath, sample, List.cons_append, List.take_succ_cons, List.take_zero] at chars
  exact absurd chars (by decide)

/-- The question for the current document takes no answer from the stream. -/
theorem answer_streamRequest_after (a : Agent) (s : Network) (folder : Target) (sequence : String)
    (n : Nat) :
    (s.after [currentRequest folder]).answer (a.streamRequest folder sequence).line n
      = s.answer (a.streamRequest folder sequence).line n := by
  refine answer_after_of_notMem s ?_ n
  rw [List.map_singleton, List.mem_singleton]
  exact line_streamRequest_ne a folder sequence

variable {a : Agent} {s : Network} {folder : Target}

theorem fetch_cases {path : String} {target : Target}
    (leads : s.target? (a.rootUrl ++ path) = some target) :
    let r : Request := ⟨"GET", target, ""⟩
    (∃ heard ∈ heard? (s.answer r.line 0), heard.status = 200 ∧
        a.fetch path s = (.ok heard, s.after [r])) ∨
      ¬ IsOk (s.answer r.line 0) ∧ ∃ fault, a.fetch path s = (.error fault, s.after [r]) := by
  intro r
  obtain ⟨shown, calls⟩ := call_of_target? leads
  rw [fetch, calls]
  rcases isOk_cases (s.answer (Request.line ⟨"GET", target, ""⟩) 0) with
    ⟨heard, hears, ok, accepts⟩ | ⟨refused, ⟨heard, other, accepts⟩ | fails⟩
  · simp only [accepts]
    exact .inl ⟨heard, hears, ok, if_pos ok⟩
  · simp only [accepts]
    exact .inr ⟨refused, _, if_neg other⟩
  · obtain ⟨fault, failed⟩ := fails shown
    exact .inr ⟨refused, _, by rw [failed]⟩

/-- The current document is what an answer of the status 200 has as its text. -/
theorem current_cases (serves : s.Serves a.rootUrl folder) :
    (∃ heard ∈ heard? (s.answer (currentRequest folder).line 0), heard.status = 200 ∧
        a.current s = (documentOf heard, s.after [currentRequest folder])) ∨
      ¬ IsOk (s.answer (currentRequest folder).line 0) ∧
        ∃ fault, a.current s = (.error fault, s.after [currentRequest folder]) := by
  have leads := serves.target?_append plainPath_current
  rcases fetch_cases leads with ⟨heard, hears, ok, fetched⟩ | ⟨bad, fault, fetched⟩
  · exact .inl ⟨heard, hears, ok, by rw [current, fetched]; rfl⟩
  · exact .inr ⟨bad, fault, by rw [current, fetched]; rfl⟩

theorem documentOf_cases (heard : Response) :
    (∃ reason, heard.text = .error reason ∧ documentOf heard = .error (.transport (.document reason))) ∨
      ∃ document, heard.text = .ok document ∧ documentOf heard = .ok document := by
  unfold documentOf
  cases heard.text with
  | error reason => exact .inl ⟨reason, rfl, rfl⟩
  | ok document => exact .inr ⟨document, rfl, rfl⟩

theorem snd_current (serves : s.Serves a.rootUrl folder) :
    (a.current s).2 = s.after [currentRequest folder] := by
  rcases current_cases serves with ⟨heard, -, -, asked⟩ | ⟨-, fault, asked⟩ <;> rw [asked]

theorem stream_cases (memory : Nat) (serves : s.Serves a.rootUrl folder) {sequence : String}
    (plain : ∀ c ∈ sequence.toList, isUnreserved c = true) :
    (∃ heard ∈ heard? (s.answer (a.streamRequest folder sequence).line 0), heard.status = 200 ∧
        a.stream memory sequence s = (.ok (Multipart.split (framing memory heard) heard.body),
          s.after [a.streamRequest folder sequence])) ∨
      ¬ IsOk (s.answer (a.streamRequest folder sequence).line 0) ∧
        ∃ fault, a.stream memory sequence s = (.error fault, s.after [a.streamRequest folder sequence]) := by
  have leads := serves.target?_append (a.plainPath_stream plain)
  rcases fetch_cases leads with ⟨heard, hears, ok, fetched⟩ | ⟨bad, fault, fetched⟩
  · exact .inl ⟨heard, hears, ok, by rw [stream, fetched]; rfl⟩
  · exact .inr ⟨bad, fault, by rw [stream, fetched]; rfl⟩

end ActionBridge.Agent
