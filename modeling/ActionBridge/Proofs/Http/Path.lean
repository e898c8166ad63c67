import ActionBridge.Http.Path
import ActionBridge.Proofs.Text.Splitting

/-!
# Plain segments

The segments of unreserved characters, but for those that stand for directories, are their own normal
form (`Plain`). Behind any other path they stay as they are, and what is in front of them does not
depend on them (`normalPath_append_slashed`).
-/
namespace ActionBridge.Http
open Text

/-! ## Unreserved characters -/

/-- Characters that stand for themselves in every part of a URL. -/
def isUnreserved (c : Char) : Bool := c.isAlphanum || "-._~".toList.contains c

/-- Characters that are neither space nor beyond ASCII. -/
def isPrinted (c : Char) : Bool := 0x20 < c.toNat && c.toNat < 0x7F

theorem ne_of_isUnreserved {c mark : Char} (plain : isUnreserved c = true)
    (reserved : isUnreserved mark = false) : c ≠ mark := by
  intro same
  rw [same, reserved] at plain
  exact Bool.noConfusion plain

theorem isPrinted_of_isUnreserved {c : Char} (plain : isUnreserved c = true) : isPrinted c = true := by
  have ranges : isUnreserved c = ((decide (c.val ≥ 'A'.val ∧ c.val ≤ 'Z'.val)
      || decide (c.val ≥ 'a'.val) && decide (c.val ≤ 'z'.val)
      || decide (c.val ≥ '0'.val) && decide (c.val ≤ '9'.val)) || "-._~".toList.contains c) := rfl
  simp only [ranges, Bool.or_eq_true, Bool.and_eq_true, decide_eq_true_eq,
    UInt32.le_iff_toNat_le] at plain
  simp only [isPrinted, Bool.and_eq_true, decide_eq_true_eq]
  rcases plain with ((upper | lower) | digit) | mark
  · have : 65 ≤ c.toNat ∧ c.toNat ≤ 90 := upper
    omega
  · have : 97 ≤ c.toNat ∧ c.toNat ≤ 122 := lower
    omega
  · have : 48 ≤ c.toNat ∧ c.toNat ≤ 57 := digit
    omega
  · have : c = '-' ∨ c = '.' ∨ c = '_' ∨ c = '~' := by simpa using mark
    rcases this with rfl | rfl | rfl | rfl <;> decide

theorem percentEncode_eq_self {p : Char → Bool} {cs : List Char}
    (plain : ∀ c ∈ cs, isPrinted c = true ∧ p c = false) : percentEncode p cs = cs := by
  induction cs with
  | nil => rfl
  | cons c cs ih =>
    obtain ⟨printed, safe⟩ := plain c List.mem_cons_self
    have printed : 0x20 < c.toNat ∧ c.toNat < 0x7F := by simpa [isPrinted] using printed
    have stays : (c.toNat ≤ 0x20 || 0x7F ≤ c.toNat || p c) = false := by
      simp only [safe, Bool.or_false, Bool.or_eq_false_iff, decide_eq_false_iff_not]
      omega
    have rest : percentEncode p cs = cs := ih fun c member => plain c (List.mem_cons_of_mem _ member)
    rw [percentEncode, List.flatMap_cons, stays, ← percentEncode, rest]
    rfl

theorem percentEncode_append (p : Char → Bool) (xs ys : List Char) :
    percentEncode p (xs ++ ys) = percentEncode p xs ++ percentEncode p ys := List.flatMap_append

/-! ## Plain segments -/

/-- A segment of unreserved characters that stands for no directory. -/
structure Plain (segment : List Char) : Prop where
  unreserved : ∀ c ∈ segment, isUnreserved c = true
  notHere : segment ≠ ['.']
  notAbove : segment ≠ ['.', '.']

instance (segment : List Char) : Decidable (Plain segment) :=
  decidable_of_iff
    (segment.all isUnreserved = true ∧ segment ≠ ['.'] ∧ segment ≠ ['.', '.'])
    ⟨fun h => ⟨List.all_eq_true.mp h.1, h.2.1, h.2.2⟩,
      fun h => ⟨List.all_eq_true.mpr h.unreserved, h.notHere, h.notAbove⟩⟩

namespace Plain

variable {segment : List Char}

theorem nil : Plain [] := by decide

/-- A text with a percent sign is not what a plain segment is in lower case. -/
theorem lower_ne (plain : Plain segment) {text : String} (encoded : '%' ∈ text.toList) :
    lower (String.ofList segment) ≠ text := by
  intro same
  rw [← same, toList_lower, String.toList_ofList, List.mem_map] at encoded
  obtain ⟨c, member, becomes⟩ := encoded
  have percent : '%'.isAlpha = false := by decide
  exact ne_of_isUnreserved (plain.unreserved c member) (by decide) (eq_of_toLower_eq percent becomes)

theorem eq_of_lower_eq {text : String} (others : ∀ mark ∈ text.toList, mark.isAlpha = false)
    (same : lower (String.ofList segment) = text) : segment = text.toList := by
  refine eq_of_map_toLower_eq others ?_
  rw [← same, toList_lower, String.toList_ofList]

theorem isHere_eq_false (plain : Plain segment) : isHere segment = false := by
  have here : lower (String.ofList segment) ≠ "." := fun same =>
    plain.notHere (eq_of_lower_eq (by simp) same)
  have encoded : lower (String.ofList segment) ≠ "%2e" := plain.lower_ne (by decide)
  simp [isHere, here, encoded]

theorem isAbove_eq_false (plain : Plain segment) : isAbove segment = false := by
  have above : lower (String.ofList segment) ≠ ".." := fun same =>
    plain.notAbove (eq_of_lower_eq (by simp) same)
  have second : lower (String.ofList segment) ≠ ".%2e" := plain.lower_ne (by decide)
  have first : lower (String.ofList segment) ≠ "%2e." := plain.lower_ne (by decide)
  have both : lower (String.ofList segment) ≠ "%2e%2e" := plain.lower_ne (by decide)
  simp [isAbove, above, second, first, both]

theorem notMem (plain : Plain segment) {mark : Char} (reserved : isUnreserved mark = false) :
    mark ∉ segment := fun member =>
  ne_of_isUnreserved (plain.unreserved mark member) reserved rfl

theorem percentEncode_eq (plain : Plain segment) : percentEncode unsafeInPath segment = segment := by
  refine percentEncode_eq_self fun c member => ?_
  have unreserved := plain.unreserved c member
  refine ⟨isPrinted_of_isUnreserved unreserved, ?_⟩
  have other (mark : Char) (reserved : isUnreserved mark = false) : (c == mark) = false :=
    beq_false_of_ne (ne_of_isUnreserved unreserved reserved)
  rw [unsafeInPath, unsafeInFragment, other '"' (by decide), other '<' (by decide),
    other '>' (by decide), other '\x60' (by decide), other '#' (by decide), other '?' (by decide),
    other '\x7b' (by decide), other '\x7d' (by decide)]
  rfl

end Plain

/-! ## Paths that end in plain segments -/

/-- Resolves segments that others follow, behind those so far; both in reverse. -/
def walk (done : Segments) : Segments → Segments
  | [] => done
  | segment :: rest =>
    if isAbove segment then walk (leave done) rest
    else if isHere segment then walk done rest
    else walk (percentEncode unsafeInPath segment :: done) rest

theorem resolve_cons (done : Segments) (segment : List Char) {rest : Segments} (more : rest ≠ []) :
    resolve done (segment :: rest) =
      if isAbove segment then resolve (leave done) rest
      else if isHere segment then resolve done rest
      else resolve (percentEncode unsafeInPath segment :: done) rest := by
  obtain ⟨next, rest, rfl⟩ := List.exists_cons_of_ne_nil more
  rw [resolve]
  exact List.cons_ne_nil next rest

theorem resolve_append (done front : Segments) {back : Segments} (more : back ≠ []) :
    resolve done (front ++ back) = resolve (walk done front) back := by
  induction front generalizing done with
  | nil => rfl
  | cons segment front ih =>
    rw [List.cons_append, resolve_cons _ _ (List.append_ne_nil_of_right_ne_nil _ more), walk]
    split
    · exact ih _
    · split
      · exact ih _
      · exact ih _

theorem resolve_of_plain (done : Segments) {segments : Segments}
    (plain : ∀ segment ∈ segments, Plain segment) :
    resolve done segments = done.reverse ++ segments := by
  induction segments generalizing done with
  | nil => rw [resolve, List.append_nil]
  | cons segment rest ih =>
    have head := plain segment List.mem_cons_self
    have tail := ih (segment :: done) fun s member => plain s (List.mem_cons_of_mem _ member)
    cases rest with
    | nil => simp [resolve, head.isAbove_eq_false, head.isHere_eq_false, head.percentEncode_eq]
    | cons next rest =>
      rw [resolve_cons _ _ (List.cons_ne_nil _ _), head.isAbove_eq_false, head.isHere_eq_false,
        head.percentEncode_eq, if_neg Bool.false_ne_true, if_neg Bool.false_ne_true, tail,
        List.reverse_cons, List.append_assoc, List.singleton_append]

theorem notMem_slashed {segments : Segments} (plain : ∀ segment ∈ segments, Plain segment) {mark : Char}
    (reserved : isUnreserved mark = false) (other : mark ≠ '/') : mark ∉ slashed segments := by
  intro member
  obtain ⟨segment, inside, here⟩ := List.mem_flatMap.mp member
  rcases List.mem_cons.mp here with same | here
  · exact other same
  · exact (plain segment inside).notMem reserved here

/-- The segments of a path that others follow. -/
def frontSegments (cs : List Char) : Segments :=
  match splitAll '/' cs with
  | [] :: rest => rest
  | segments => segments

theorem segmentsOf_append_slashed (cs : List Char) {segments : Segments} (more : segments ≠ [])
    (plain : ∀ segment ∈ segments, Plain segment) :
    segmentsOf (cs ++ slashed segments) = frontSegments cs ++ segments := by
  have cut : splitAll '/' (cs ++ slashed segments) = splitAll '/' cs ++ segments :=
    splitAll_append_flatMap (fun segment member => (plain segment member).notMem (by decide)) cs
  obtain ⟨next, rest, rfl⟩ := List.exists_cons_of_ne_nil more
  rw [segmentsOf, cut, frontSegments]
  cases pieces : splitAll '/' cs with
  | nil => exact absurd pieces (splitAll_ne_nil '/' cs)
  | cons first others =>
    cases first with
    | nil =>
      cases others with
      | nil => rfl
      | cons second others => rfl
    | cons c first => rfl

/-- What a path in normal form becomes in front of plain segments. -/
def folderOf (cs : List Char) : List Char := slashed (walk [] (frontSegments cs)).reverse

/-- Plain segments are the same in normal form, and in front of them is what does not depend on them. -/
theorem normalPath_append_slashed (cs : List Char) {segments : Segments} (more : segments ≠ [])
    (plain : ∀ segment ∈ segments, Plain segment) :
    normalPath (cs ++ slashed segments) = folderOf cs ++ slashed segments := by
  rw [normalPath, segmentsOf_append_slashed cs more plain, resolve_append [] _ more,
    resolve_of_plain _ plain, slashed, List.flatMap_append]
  rfl

end ActionBridge.Http
