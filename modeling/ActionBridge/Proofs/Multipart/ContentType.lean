import ActionBridge.Multipart.Boundary
import ActionBridge.Proofs.Text.Splitting
import ActionBridge.Proofs.Text.Trimming

/-!
# Content types

A content type of parts gives the boundary that it names (`Names`), wherever the parameter stands that
holds it and however it is written, bare or in double quotes. A boundary is given for nothing but a
media type of parts, and it is never empty, has no semicolon and no double quote at its ends
(`boundary_of_contentType`).
-/
namespace ActionBridge.Multipart
open Text

variable {media parameter b contentType : String} {before after : List String}

/-! ## Grammar -/

/-- A media type of parts, in any letter case and with space around it. -/
def IsPartsType (media : String) : Prop :=
  ∃ kind : String, lower (trim media) = "multipart/" ++ kind ∧ ';' ∉ kind.toList

/-- What stands in front of the first equals sign of the parameter, if there is one, is not the word
    for a boundary. -/
def Foreign (parameter : String) : Prop :=
  ∀ key value : String, parameter = key ++ "=" ++ value → '=' ∉ key.toList →
    lower (trim key) ≠ "boundary"

/-- The text is `core` with space around it, or none. -/
def Padded (core text : String) : Prop :=
  ∃ front back : String, text = front ++ core ++ back
    ∧ (∀ c ∈ front.toList, isBlank c = true) ∧ ∀ c ∈ back.toList, isBlank c = true

/-- The parameter holds `b`, bare or in double quotes, under a key in any letter case. -/
def Holds (b parameter : String) : Prop :=
  ∃ word key value : String, parameter = key ++ "=" ++ value ∧ lower word = "boundary"
    ∧ Padded word key ∧ (Padded b value ∨ Padded ("\"" ++ b ++ "\"") value)

/-- A parameter can hold the boundary: it is not empty, has no semicolon and neither space nor a double
    quote at its ends. -/
structure Holdable (b : String) : Prop where
  solid : b ≠ ""
  whole : ';' ∉ b.toList
  first : ∀ c, b.toList.head? = some c → isBlank c = false ∧ c ≠ '"'
  last : ∀ c, b.toList.getLast? = some c → isBlank c = false ∧ c ≠ '"'

/-- The content type names the boundary in one of its parameters, and in no other one. -/
inductive Names : String → String → Prop
  | intro {media parameter b : String} {before after : List String} (parts : IsPartsType media)
      (whole : ∀ p ∈ before ++ after, ';' ∉ p.toList) (foreign : ∀ p ∈ before ++ after, Foreign p)
      (holds : Holds b parameter) (holdable : Holdable b) :
      Names (";".intercalate (media :: (before ++ parameter :: after))) b

/-! ## Media types -/

theorem mem_map_toLower_iff {cs : List Char} {mark : Char} (other : mark.isAlpha = false) :
    mark ∈ cs.map Char.toLower ↔ mark ∈ cs := by
  have stays : mark.toLower = mark :=
    toLower_eq_self (Bool.or_eq_false_iff.mp other).1
  refine ⟨fun member => ?_, fun member => List.mem_map.mpr ⟨mark, member, stays⟩⟩
  obtain ⟨c, inside, lowered⟩ := List.mem_map.mp member
  rwa [eq_of_toLower_eq other lowered] at inside

/-- A semicolon goes neither with the space around a media type nor with its capitals. -/
theorem semicolon_mem_lower_trim : ';' ∈ (lower (trim media)).toList ↔ ';' ∈ media.toList := by
  rw [toList_lower, toList_trim, mem_map_toLower_iff (by decide)]
  exact ⟨mem_of_mem_stripWhile, fun member => mem_stripWhile member (by decide)⟩

theorem notMem_of_isPartsType (parts : IsPartsType media) : ';' ∉ media.toList := by
  obtain ⟨kind, same, clean⟩ := parts
  rw [← semicolon_mem_lower_trim, same, String.toList_append, List.mem_append, not_or]
  exact ⟨by decide, clean⟩

theorem isMultipart_iff (clean : ';' ∉ media.toList) :
    isMultipart media.toList = true ↔ IsPartsType media := by
  rw [isMultipart, List.isPrefixOf_iff_prefix, ← toList_trim, ← toList_lower]
  constructor
  · rintro ⟨kind, same⟩
    refine ⟨String.ofList kind, ?_, fun member => clean ?_⟩
    · apply String.toList_injective
      simp [← same]
    · rw [← semicolon_mem_lower_trim, ← same]
      exact List.mem_append_right _ (by simpa using member)
  · rintro ⟨kind, same, -⟩
    exact ⟨kind.toList, by rw [same, String.toList_append]⟩

/-! ## Parameters -/

theorem trim_of_padded {core text : String} (padded : Padded core text)
    (first : ∀ c, core.toList.head? = some c → isBlank c = false)
    (last : ∀ c, core.toList.getLast? = some c → isBlank c = false) : trim text = core := by
  obtain ⟨front, back, rfl, opens, closes⟩ := padded
  rw [trim, String.toList_append, String.toList_append,
    stripWhile_append_append opens closes first last, String.ofList_toList]

theorem notMem_of_padded {core text : String} {mark : Char} (padded : Padded core text)
    (solid : isBlank mark = false) (clean : mark ∉ core.toList) : mark ∉ text.toList := by
  obtain ⟨front, back, rfl, opens, closes⟩ := padded
  simp only [String.toList_append, List.mem_append, not_or]
  refine ⟨⟨fun member => ?_, clean⟩, fun member => ?_⟩
  · exact Bool.noConfusion (solid.symm.trans (opens mark member))
  · exact Bool.noConfusion (solid.symm.trans (closes mark member))

/-- The word for a boundary has only letters. -/
theorem isAlphanum_of_lower_eq {word : String} (named : lower word = "boundary") :
    ∀ c ∈ word.toList, c.isAlphanum = true := by
  intro c member
  have among : c.toLower ∈ "boundary".toList := by
    rw [← named, toList_lower]
    exact List.mem_map.mpr ⟨c, member, rfl⟩
  have letters : ∀ d ∈ "boundary".toList, d.isLower = true := List.all_eq_true.mp (by decide)
  rcases toLower_cases c with ⟨capital, -⟩ | ⟨-, same⟩
  · exact isAlphanum_iff.mpr (.inl capital)
  · exact isAlphanum_iff.mpr (.inr (.inl (same ▸ letters _ among)))

theorem toList_parameter (key value : String) :
    (key ++ "=" ++ value).toList = key.toList ++ '=' :: value.toList := by
  simp

theorem namesBoundary_iff {key : String} :
    namesBoundary key.toList = true ↔ lower (trim key) = "boundary" := by
  rw [namesBoundary, beq_iff_eq, ← toList_trim, ← toList_lower, String.toList_inj]

theorem foreign_iff : Foreign parameter ↔
    ∀ halves ∈ splitFirst '=' parameter.toList, namesBoundary halves.1 = false := by
  constructor
  · rintro foreign ⟨key, value⟩ split
    obtain ⟨chars, clean⟩ := splitFirst_eq_some_iff.mp split
    have text : parameter = String.ofList key ++ "=" ++ String.ofList value := by
      apply String.toList_injective
      rw [toList_parameter, String.toList_ofList, String.toList_ofList, chars]
    have other := foreign _ _ text (by rwa [String.toList_ofList])
    rwa [Ne, ← namesBoundary_iff, String.toList_ofList, Bool.not_eq_true] at other
  · rintro unnamed key value rfl clean same
    have split := splitFirst_append_cons clean value.toList
    rw [← toList_parameter] at split
    exact Bool.noConfusion ((unnamed _ split).symm.trans (namesBoundary_iff.mpr same))

instance : DecidablePred Foreign := fun _ => decidable_of_iff _ foreign_iff.symm

theorem parameterBoundary?_of_foreign (foreign : Foreign parameter) :
    parameterBoundary? parameter.toList = none := by
  have unnamed := foreign_iff.mp foreign
  rw [parameterBoundary?]
  cases split : splitFirst '=' parameter.toList with
  | none => rfl
  | some halves =>
    obtain ⟨key, value⟩ := halves
    simp [unnamed _ split]

theorem unquoted_of_padded {value : String} (holdable : Holdable b)
    (written : Padded b value ∨ Padded ("\"" ++ b ++ "\"") value) : unquoted value.toList = b.toList := by
  have first : ∀ c, b.toList.head? = some c → (c == '"') = false :=
    fun c here => beq_false_of_ne (holdable.first c here).2
  have last : ∀ c, b.toList.getLast? = some c → (c == '"') = false :=
    fun c here => beq_false_of_ne (holdable.last c here).2
  rw [unquoted, ← toList_trim]
  rcases written with plain | quoted
  · have bare : trim value = b := trim_of_padded plain (fun c here => (holdable.first c here).1)
      (fun c here => (holdable.last c here).1)
    rw [bare, stripWhile_eq_self first last]
  · have chars : ("\"" ++ b ++ "\"").toList = ['"'] ++ b.toList ++ ['"'] := by simp
    have marks : ∀ c ∈ ['"'], (c == '"') = true := List.forall_mem_singleton.mpr (beq_self_eq_true _)
    have bare : trim value = "\"" ++ b ++ "\"" := by
      refine trim_of_padded quoted (fun c opens => ?_) (fun c closes => ?_)
      · rw [chars, List.append_assoc, List.singleton_append, List.head?_cons] at opens
        obtain rfl := Option.some.inj opens
        decide
      · rw [chars, List.getLast?_concat] at closes
        obtain rfl := Option.some.inj closes
        decide
    rw [bare, chars, stripWhile_append_append marks marks first last]

theorem parameterBoundary?_of_holds (holds : Holds b parameter) (holdable : Holdable b) :
    parameterBoundary? parameter.toList = some b := by
  obtain ⟨word, key, value, rfl, named, padded, written⟩ := holds
  have letters := isAlphanum_of_lower_eq named
  have bare : trim key = word :=
    trim_of_padded padded (fun c first => isBlank_of_isAlphanum (letters c (List.mem_of_head? first)))
      (fun c last => isBlank_of_isAlphanum (letters c (List.mem_of_getLast? last)))
  have clean : '=' ∉ key.toList :=
    notMem_of_padded padded (by decide) fun member => absurd (letters _ member) (by decide)
  have names : namesBoundary key.toList = true := namesBoundary_iff.mpr (by rw [bare, named])
  rw [parameterBoundary?, toList_parameter, splitFirst_append_cons clean]
  simp only [names, if_true, unquoted_of_padded holdable written, String.ofList_toList, nonEmpty?]
  rw [if_neg (by simpa using holdable.solid)]

/-! ## Content types -/

theorem notMem_of_holds (holds : Holds b parameter) (holdable : Holdable b) : ';' ∉ parameter.toList := by
  obtain ⟨word, key, value, rfl, named, padded, written⟩ := holds
  have front : ';' ∉ key.toList := notMem_of_padded padded (by decide) fun member =>
    absurd (isAlphanum_of_lower_eq named _ member) (by decide)
  have back : ';' ∉ value.toList := by
    rcases written with plain | quoted
    · exact notMem_of_padded plain (by decide) holdable.whole
    · exact notMem_of_padded quoted (by decide) (by simpa using holdable.whole)
  simp [front, back]

theorem boundary?_of_names (names : Names contentType b) : boundary? contentType = some b := by
  obtain @⟨media, parameter, _, before, after, parts, whole, foreign, holds, holdable⟩ := names
  have clean : ∀ piece ∈ (media :: (before ++ parameter :: after)).map String.toList, ';' ∉ piece := by
    rw [List.forall_mem_map, List.forall_mem_cons, List.forall_mem_append, List.forall_mem_cons]
    rw [List.forall_mem_append] at whole
    exact ⟨notMem_of_isPartsType parts, whole.1, notMem_of_holds holds holdable, whole.2⟩
  have missed : (before.map String.toList).findSome? parameterBoundary? = none := by
    rw [List.findSome?_eq_none_iff, List.forall_mem_map]
    exact fun p member => parameterBoundary?_of_foreign (foreign p (List.mem_append_left _ member))
  have pieces : splitAll ';' (";".intercalate (media :: (before ++ parameter :: after))).toList
      = (media :: (before ++ parameter :: after)).map String.toList := by
    rw [String.toList_intercalate]
    exact splitAll_intercalate clean (List.cons_ne_nil _ _)
  rw [boundary?, pieces, List.map_cons]
  dsimp only
  rw [if_pos ((isMultipart_iff (notMem_of_isPartsType parts)).mpr parts), List.map_append,
    List.findSome?_append, missed, Option.none_or, List.map_cons, List.findSome?_cons,
    parameterBoundary?_of_holds holds holdable]

/-- What a parameter gives as the boundary is its value without what stands around it. -/
theorem parameterBoundary?_eq_some {cs : List Char} (given : parameterBoundary? cs = some b) :
    b ≠ "" ∧ ∃ key value, cs = key ++ '=' :: value ∧ b = String.ofList (unquoted value) := by
  rw [parameterBoundary?] at given
  cases split : splitFirst '=' cs with
  | none => simp [split] at given
  | some halves =>
    obtain ⟨key, value⟩ := halves
    simp only [split] at given
    obtain ⟨-, kept⟩ := Option.ite_none_right_eq_some.mp given
    obtain ⟨solid, same⟩ := Option.ite_none_left_eq_some.mp kept
    obtain rfl := Option.some.inj same
    exact ⟨by simpa using solid, key, value, (splitFirst_eq_some_iff.mp split).1, rfl⟩

/-- A content type gives the boundary that it names, and gives one for parts only. What it gives is not
    empty, has no semicolon and no double quote at its ends. -/
theorem boundary_of_contentType (contentType b : String) :
    (Names contentType b → boundary? contentType = some b)
      ∧ (boundary? contentType = some b →
        IsPartsType (String.ofList (contentType.toList.takeWhile (· != ';')))
          ∧ b ≠ "" ∧ ';' ∉ b.toList ∧ b.toList.head? ≠ some '"' ∧ b.toList.getLast? ≠ some '"') := by
  refine ⟨boundary?_of_names, fun given => ?_⟩
  have front : (splitAll ';' contentType.toList).head? = some (contentType.toList.takeWhile (· != ';')) :=
    head?_splitAll _
  rw [boundary?] at given
  cases pieces : splitAll ';' contentType.toList with
  | nil => exact absurd pieces (splitAll_ne_nil _ _)
  | cons media parameters =>
    simp only [pieces] at given
    rw [pieces, List.head?_cons, Option.some.injEq] at front
    obtain ⟨multipart, found⟩ := Option.ite_none_right_eq_some.mp given
    have clean : ∀ piece ∈ media :: parameters, ';' ∉ piece := by
      rw [← pieces]
      exact fun piece => notMem_of_mem_splitAll
    have parts : IsPartsType (String.ofList media) := by
      refine (isMultipart_iff ?_).mp ?_
      · rw [String.toList_ofList]
        exact clean media List.mem_cons_self
      · rwa [String.toList_ofList]
    obtain ⟨parameter, member, held⟩ := List.exists_of_findSome?_eq_some found
    obtain ⟨solid, key, value, rfl, rfl⟩ := parameterBoundary?_eq_some held
    rw [← front, String.toList_ofList]
    refine ⟨parts, solid, fun inside => ?_, fun first => ?_, fun last => ?_⟩
    · have among : ';' ∈ value := mem_of_mem_stripWhile (mem_of_mem_stripWhile inside)
      exact clean _ (List.mem_cons_of_mem _ member) (by simp [among])
    · exact absurd (stays_of_head?_stripWhile first) (by decide)
    · exact absurd (stays_of_getLast?_stripWhile last) (by decide)

/-- A boundary in double quotes, with other parameters in front of it and behind it. -/
def quotedType : String :=
  " Multipart/Mixed ;charset=utf-8;oops; BOUNDARY = \"a=b c\" ; x = boundary"

theorem boundary_of_contentType_quoted :
    Names quotedType "a=b c" ∧ boundary? quotedType = some "a=b c" := by
  have parts : IsPartsType " Multipart/Mixed " := ⟨"mixed", by decide +kernel, by decide +kernel⟩
  have space : ∀ c ∈ " ".toList, isBlank c = true := List.all_eq_true.mp (by decide)
  have holds : Holds "a=b c" " BOUNDARY = \"a=b c\" " :=
    ⟨"BOUNDARY", " BOUNDARY ", " \"a=b c\" ", by decide +kernel, by decide +kernel,
      ⟨" ", " ", by decide +kernel, space, space⟩, .inr ⟨" ", " ", by decide +kernel, space, space⟩⟩
  have holdable : Holdable "a=b c" := ⟨by decide, by decide, by simp; decide, by simp; decide⟩
  have text : quotedType = ";".intercalate (" Multipart/Mixed " :: (["charset=utf-8", "oops"]
      ++ " BOUNDARY = \"a=b c\" " :: [" x = boundary"])) := by decide +kernel
  have names : Names quotedType "a=b c" := by
    rw [text]
    exact .intro parts (by decide) (by decide +kernel) holds holdable
  exact ⟨names, (boundary_of_contentType _ _).1 names⟩

end ActionBridge.Multipart
