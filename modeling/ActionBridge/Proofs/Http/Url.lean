import ActionBridge.Http.Network
import ActionBridge.Proofs.Http.Path
import ActionBridge.Proofs.Text.Trimming
import Mathlib.Data.List.Basic
import Mathlib.Data.List.TakeDrop

/-!
# Below a folder

Where a URL with a slash behind it leads to a folder of a server, the URL with plain segments behind
it leads to what is below that folder (`Server.Serves.target?_append`): a slash ends the host and the
port, and what comes before it is read the same whatever comes behind it.
-/
namespace ActionBridge.Http
open Text

/-! ## Paths as they are written behind a URL -/

/-- Characters that stand for themselves in a path or in a query, or hold their parts together. -/
def isPathChar (c : Char) : Bool := isUnreserved c || "/?=&".toList.contains c

/-- A query with its mark, or nothing. -/
def queryChars : List Char → List Char
  | [] => []
  | query => '?' :: query

theorem queryChars_of_ne_nil {query : List Char} (some : query ≠ []) : queryChars query = '?' :: query := by
  obtain ⟨first, rest, rfl⟩ := List.exists_cons_of_ne_nil some
  rfl

/-- Plain segments, each behind a slash, and perhaps a query. -/
structure PlainPath (path : String) where
  segments : Segments
  query : List Char
  written : path.toList = slashed segments ++ queryChars query
  more : segments ≠ []
  plain : ∀ segment ∈ segments, Plain segment
  plainQuery : ∀ c ∈ query, isPathChar c = true

theorem isPathChar_of_isUnreserved {c : Char} (plain : isUnreserved c = true) : isPathChar c = true := by
  rw [isPathChar, plain, Bool.true_or]

theorem ne_of_isPathChar {c mark : Char} (plain : isPathChar c = true) (other : isPathChar mark = false) :
    c ≠ mark := by
  intro same
  rw [same, other] at plain
  exact Bool.noConfusion plain

theorem isPrinted_of_isPathChar {c : Char} (plain : isPathChar c = true) : isPrinted c = true := by
  rw [isPathChar, Bool.or_eq_true] at plain
  rcases plain with unreserved | mark
  · exact isPrinted_of_isUnreserved unreserved
  · have marks : c = '/' ∨ c = '?' ∨ c = '=' ∨ c = '&' := by simpa using mark
    rcases marks with rfl | rfl | rfl | rfl <;> decide

namespace PlainPath

variable {path : String}

/-- A path without a query. -/
def ofSegments (segments : Segments) (written : path.toList = slashed segments) (more : segments ≠ [])
    (plain : ∀ segment ∈ segments, Plain segment) : PlainPath path where
  segments := segments
  query := []
  written := by rw [written, queryChars, List.append_nil]
  more := more
  plain := plain
  plainQuery := fun c member => absurd member List.not_mem_nil

/-- The path of a folder itself. -/
def slash : PlainPath "/" :=
  ofSegments [[]] rfl (List.cons_ne_nil _ _) (List.forall_mem_singleton.mpr .nil)

theorem starts (plain : PlainPath path) : ∃ rest, path.toList = '/' :: rest := by
  obtain ⟨segments, query, written, more, -, -⟩ := plain
  obtain ⟨first, others, rfl⟩ := List.exists_cons_of_ne_nil more
  exact ⟨_, written⟩

theorem isPathChar (plain : PlainPath path) : ∀ c ∈ path.toList, isPathChar c = true := by
  intro c member
  rw [plain.written, List.mem_append] at member
  rcases member with inPath | inQuery
  · obtain ⟨segment, inside, here⟩ := List.mem_flatMap.mp inPath
    rcases List.mem_cons.mp here with rfl | here
    · decide
    · exact isPathChar_of_isUnreserved ((plain.plain segment inside).unreserved c here)
  · cases query : plain.query with
    | nil =>
      rw [query] at inQuery
      exact absurd inQuery List.not_mem_nil
    | cons first rest =>
      rw [query] at inQuery
      rcases List.mem_cons.mp inQuery with rfl | here
      · decide
      · exact plain.plainQuery c (query ▸ here)

theorem notMem (plain : PlainPath path) {mark : Char} (other : Http.isPathChar mark = false) :
    mark ∉ path.toList := fun member =>
  ne_of_isPathChar (plain.isPathChar mark member) other rfl

end PlainPath

/-! ## Schemes -/

theorem splitScheme?_append (cs : List Char) {path : List Char} (clean : ':' ∉ path) :
    splitScheme? (cs ++ path) = (splitScheme? cs).map (Prod.map id (· ++ path)) := by
  rw [splitScheme?, splitFirst_append cs clean, splitScheme?]
  rcases splitFirst ':' cs with - | ⟨- | ⟨first, more⟩, after⟩
  · rfl
  · rfl
  · simp only [Option.map_some, Prod.map_apply, id_eq]
    split <;> rfl

theorem withSlashes_cons (c : Char) (cs : List Char) :
    withSlashes (c :: cs) =
      if c == '?' || c == '#' then c :: cs else (if c == '\\' then '/' else c) :: withSlashes cs := by
  simp only [withSlashes, List.span_eq_takeWhile_dropWhile, List.takeWhile_cons, List.dropWhile_cons]
  by_cases marks : c = '?' ∨ c = '#'
  · have stops : (c != '?' && c != '#') = false := by
      rcases marks with rfl | rfl <;> rfl
    have ends : (c == '?' || c == '#') = true := by
      rcases marks with rfl | rfl <;> rfl
    rw [stops, ends]
    rfl
  · obtain ⟨question, fragment⟩ := not_or.mp marks
    simp [question, fragment]

theorem withSlashes_of_notMem {cs : List Char} (clean : '\\' ∉ cs) : withSlashes cs = cs := by
  induction cs with
  | nil => rfl
  | cons c cs ih =>
    have other : (c == '\\') = false := beq_false_of_ne fun same => clean (same ▸ List.mem_cons_self)
    have same := ih fun member => clean (List.mem_cons_of_mem _ member)
    rw [withSlashes_cons, other, same]
    split <;> rfl

theorem withSlashes_append (cs : List Char) {path : List Char} (clean : '\\' ∉ path) :
    withSlashes (cs ++ path) = withSlashes cs ++ path := by
  induction cs with
  | nil => exact withSlashes_of_notMem clean
  | cons c cs ih =>
    rw [List.cons_append, withSlashes_cons, withSlashes_cons, ih]
    split <;> rfl

/-! ## In front of a slash -/

variable (rest : List Char)

theorem takeWhile_append_slash {p : Char → Bool} (stops : p '/' = false) (cs : List Char) :
    (cs ++ '/' :: rest).takeWhile p = cs.takeWhile p := by
  induction cs with
  | nil => simp [stops]
  | cons c cs ih => rw [List.cons_append, List.takeWhile_cons, List.takeWhile_cons, ih]

theorem dropWhile_append_slash {p : Char → Bool} (stops : p '/' = false) (cs : List Char) :
    (cs ++ '/' :: rest).dropWhile p = cs.dropWhile p ++ '/' :: rest := by
  induction cs with
  | nil => simp [stops]
  | cons c cs ih =>
    rw [List.cons_append, List.dropWhile_cons, List.dropWhile_cons, ih]
    split <;> rfl

/-- What is left of a text in front of a path. -/
def tidyFront (cs : List Char) : List Char :=
  (cs.dropWhile fun c => c.toNat ≤ 0x20).filter fun c => c != '\t' && c != '\n' && c != '\r'

theorem tidy_append (cs : List Char) {path : List Char} (starts : ∃ rest, path = '/' :: rest)
    (visible : ∀ c ∈ path, isPathChar c = true) : tidy (cs ++ path) = tidyFront cs ++ path := by
  obtain ⟨rest, rfl⟩ := starts
  have code {c : Char} (member : c ∈ '/' :: rest) : 0x20 < c.toNat ∧ c.toNat < 0x7F := by
    simpa [isPrinted] using isPrinted_of_isPathChar (visible c member)
  have kept (front : List Char) :
      dropEndWhile (fun c => c.toNat ≤ 0x20) (front ++ '/' :: rest) = front ++ '/' :: rest := by
    refine dropEndWhile_eq_self fun c last => ?_
    have member : c ∈ '/' :: rest := by
      rw [List.getLast?_append_cons] at last
      exact List.mem_of_getLast? last
    have := code member
    simp only [decide_eq_false_iff_not]
    omega
  have shown (c : Char) (member : c ∈ '/' :: rest) : (c != '\t' && c != '\n' && c != '\r') = true := by
    have plain := visible c member
    have other (mark : Char) (reserved : isPathChar mark = false) : c ≠ mark :=
      ne_of_isPathChar plain reserved
    simp [other '\t' rfl, other '\n' rfl, other '\r' rfl]
  rw [tidy, stripWhile, dropWhile_append_slash rest (by decide), kept, List.filter_append,
    List.filter_eq_self.mpr shown, tidyFront]

theorem splitUser_append (cs : List Char) :
    splitUser (cs ++ '/' :: rest) = ((splitUser cs).1, (splitUser cs).2 ++ '/' :: rest) := by
  have stops : (!endsAuthority '/') = false := rfl
  rw [splitUser, takeWhile_append_slash rest stops, dropWhile_append_slash rest stops, splitUser]
  split
  · rw [List.append_assoc]
  · rfl

theorem splitHost_append (inBrackets : Bool) (cs : List Char) :
    splitHost inBrackets (cs ++ '/' :: rest)
      = ((splitHost inBrackets cs).1, (splitHost inBrackets cs).2 ++ '/' :: rest) := by
  induction cs generalizing inBrackets with
  | nil => rfl
  | cons c cs ih =>
    simp only [List.cons_append, splitHost, ih]
    split <;> rfl

theorem splitPort_append (cs : List Char) :
    splitPort (cs ++ '/' :: rest)
      = (splitPort cs).map (Prod.map id (· ++ '/' :: rest)) := by
  have stops : Decimal.isDigit '/' = false := rfl
  rcases cs with - | ⟨c, cs⟩
  · rfl
  · by_cases colon : c = ':'
    · subst colon
      have ends (behind : List Char) :
          ((behind ++ '/' :: rest).head?.all fun c => endsAuthority c || c == '\\')
            = behind.head?.all fun c => endsAuthority c || c == '\\' := by
        cases behind <;> rfl
      simp only [List.cons_append, splitPort, takeWhile_append_slash rest stops,
        dropWhile_append_slash rest stops, ends]
      split
      · rfl
      · split <;> rfl
    · have other (cs : List Char) : splitPort (c :: cs) = .ok (none, c :: cs) := by
        unfold splitPort
        split
        · next same => exact absurd (List.cons.inj same).1 colon
        · rfl
      rw [List.cons_append, other, other]
      rfl

/-- Whether a text is a URL is decided in front of a slash, and so are the host and the port. -/
theorem read_append (r : Rules) (scheme : String) (cs : List Char) :
    (∃ fault, ∀ rest, r.read scheme (cs ++ '/' :: rest) = .error fault) ∨
      ∃ user host port behind, ∀ rest, r.read scheme (cs ++ '/' :: rest)
        = .ok (r.url scheme user host port (behind ++ '/' :: rest)) := by
  simp only [Rules.read, splitUser_append, splitHost_append, splitPort_append]
  by_cases empty : (splitHost false (splitUser cs).2).1.isEmpty = true
  · exact .inl ⟨.emptyHost, fun rest => if_pos empty⟩
  · simp only [empty]
    cases r.readHost (splitHost false (splitUser cs).2).1 with
    | error fault => exact .inl ⟨fault, fun rest => rfl⟩
    | ok host =>
      cases splitPort (splitHost false (splitUser cs).2).2 with
      | error fault => exact .inl ⟨fault, fun rest => rfl⟩
      | ok parts => exact .inr ⟨(splitUser cs).1, host, parts.1, parts.2, fun rest => rfl⟩

theorem scheme_of_read {r : Rules} {scheme : String} {cs : List Char} {u : Url}
    (read : r.read scheme cs = .ok u) : u.scheme = scheme := by
  simp only [Rules.read] at read
  split at read
  · nomatch read
  · cases host : r.readHost (splitHost false (splitUser cs).2).1 with
    | error fault =>
      rw [host] at read
      nomatch read
    | ok name =>
      cases port : splitPort (splitHost false (splitUser cs).2).2 with
      | error fault =>
        rw [host, port] at read
        nomatch read
      | ok parts =>
        rw [host, port] at read
        cases read
        rfl

theorem scheme_of_readFileUrl {cs : List Char} {u : Url} (read : readFileUrl cs = .ok u) :
    u.scheme = "file" := by
  simp only [readFileUrl] at read
  split at read
  · nomatch read
  · cases host : Host.read (cs.span (!endsAuthority ·)).1 with
    | error fault =>
      rw [host] at read
      nomatch read
    | ok name =>
      simp only [host, bind, Except.bind] at read
      split at read
      · nomatch read
      · cases read
        rfl

/-- A URL of the scheme `http` is read by the rules of the web. -/
theorem ofText_http {s : String} {u : Url} (read : Url.ofText s = .ok u) (web : u.scheme = "http") :
    ∃ rest, splitScheme? (tidy s.toList) = some ("http", rest) ∧
      (Rules.web (some 80)).read "http" (withoutSlashes (withSlashes rest)) = .ok u := by
  unfold Url.ofText at read
  cases split : splitScheme? (tidy s.toList) with
  | none =>
    rw [split] at read
    nomatch read
  | some parts =>
    obtain ⟨scheme, rest⟩ := parts
    simp only [split] at read
    cases usual : usualPort? scheme with
    | some port =>
      simp only [usual] at read
      obtain rfl : scheme = "http" := (scheme_of_read read).symm.trans web
      obtain rfl : 80 = port := Option.some.inj usual
      exact ⟨rest, rfl, read⟩
    | none =>
      simp only [usual] at read
      split at read
      · split at read
        · rw [scheme_of_readFileUrl read] at web
          exact absurd web (by decide)
        · rw [scheme_of_read read] at web
          rw [web] at usual
          nomatch usual
      · nomatch read

theorem ofText_of_http {s : String} {rest : List Char}
    (scheme : splitScheme? (tidy s.toList) = some ("http", rest)) :
    Url.ofText s = (Rules.web (some 80)).read "http" (withoutSlashes (withSlashes rest)) := by
  rw [Url.ofText, scheme]
  rfl

/-- Where a text with a slash behind it is a URL of the scheme `http`, it is one with any other path. -/
theorem ofText_append {root : String} {u : Url} (read : Url.ofText (root ++ "/") = .ok u)
    (web : u.scheme = "http") :
    ∃ user host port behind, ∀ path, PlainPath path → Url.ofText (root ++ path)
      = .ok ((Rules.web (some 80)).url "http" user host port (behind ++ path.toList)) := by
  have front (path : String) (plain : PlainPath path) :
      splitScheme? (tidy (root ++ path).toList)
        = (splitScheme? (tidyFront root.toList)).map (Prod.map id (· ++ path.toList)) := by
    rw [String.toList_append, tidy_append _ plain.starts plain.isPathChar,
      splitScheme?_append _ (plain.notMem (by decide))]
  obtain ⟨rest, scheme, readRest⟩ := ofText_http read web
  rw [front "/" .slash] at scheme
  obtain ⟨⟨_, inner⟩, splits, same⟩ := Option.map_eq_some_iff.mp scheme
  obtain ⟨rfl, rfl⟩ := Prod.mk.inj same
  have reads (path : String) (plain : PlainPath path) : Url.ofText (root ++ path)
      = (Rules.web (some 80)).read "http" (withoutSlashes (withSlashes inner ++ path.toList)) := by
    have scheme : splitScheme? (tidy (root ++ path).toList) = some ("http", inner ++ path.toList) := by
      rw [front path plain, splits]
      rfl
    rw [ofText_of_http scheme, withSlashes_append _ (plain.notMem (by decide))]
  have authority : withoutSlashes (withSlashes inner) ≠ [] := by
    intro none
    have empty : withoutSlashes (withSlashes inner ++ "/".toList) = [] := by
      rw [withoutSlashes, List.dropWhile_append, ← withoutSlashes, none]
      rfl
    rw [reads "/" .slash, empty] at read
    nomatch read
  have kept (path : String) : withoutSlashes (withSlashes inner ++ path.toList)
      = withoutSlashes (withSlashes inner) ++ path.toList := by
    rw [withoutSlashes, List.dropWhile_append, ← withoutSlashes, List.isEmpty_eq_false_iff.mpr authority]
    rfl
  rcases read_append (Rules.web (some 80)) "http" (withoutSlashes (withSlashes inner)) with
    ⟨fault, fails⟩ | ⟨user, host, port, behind, succeeds⟩
  · have failed := fails []
    rw [reads "/" .slash, kept] at read
    rw [show "/".toList = ['/'] from rfl, failed] at read
    nomatch read
  · refine ⟨user, host, port, behind, fun path plain => ?_⟩
    obtain ⟨rest, starts⟩ := plain.starts
    rw [reads path plain, kept, starts, succeeds]

/-! ## Behind a slash -/

theorem span_append {mark : Char} {front back : List Char} (clean : mark ∉ front)
    (starts : ∀ c ∈ back.head?, c = mark) : (front ++ back).span (· != mark) = (front, back) := by
  have passes (c : Char) (member : c ∈ front) : (c != mark) = true :=
    bne_iff_ne.mpr fun same => clean (same ▸ member)
  rw [List.span_eq_takeWhile_dropWhile, List.takeWhile_append_of_pos passes,
    List.dropWhile_append_of_pos passes]
  cases back with
  | nil => simp
  | cons c back =>
    obtain rfl : c = mark := starts c rfl
    simp

theorem target_url {r : Rules} {path query : List Char} (noQuery : '?' ∉ path) (noFragment : '#' ∉ path)
    (noFragment' : '#' ∉ query) (kept : percentEncode r.unsafeInQuery query = [] → query = [])
    (scheme : String) (user : List Char) (host : Host) (port : Option Nat) :
    (r.url scheme user host port (path ++ queryChars query)).target
      = String.ofList (r.pathOf path ++ queryChars (percentEncode r.unsafeInQuery query)) := by
  have clean : '#' ∉ path ++ queryChars query := by
    cases query <;> simp_all [queryChars]
  have whole : (path ++ queryChars query ++ []).span (· != '#') = (path ++ queryChars query, []) :=
    span_append clean (by simp)
  rw [List.append_nil] at whole
  have cut : (path ++ queryChars query).span (· != '?') = (path, queryChars query) := by
    refine span_append noQuery fun c first => ?_
    cases query with
    | nil => exact absurd first (by simp [queryChars])
    | cons q query => exact (Option.some.inj first).symm
  simp only [Rules.url, whole, cut, Url.target]
  cases query with
  | nil => simp [queryChars, marked, percentEncode]
  | cons q query =>
    obtain ⟨first, rest, encoded⟩ : ∃ first rest,
        percentEncode r.unsafeInQuery (q :: query) = first :: rest :=
      List.exists_cons_of_ne_nil fun empty => absurd (kept empty) (List.cons_ne_nil q query)
    simp [queryChars, encoded, marked, nonEmpty?]

theorem unsafeInQuery_of_isPathChar {usualPort : Option Nat} {c : Char} (plain : isPathChar c = true) :
    (Rules.web usualPort).unsafeInQuery c = false := by
  have other (mark : Char) (reserved : isPathChar mark = false) : (c == mark) = false :=
    beq_false_of_ne (ne_of_isPathChar plain reserved)
  show (unsafeInQuery c || c == '\'') = false
  rw [unsafeInQuery, other '"' (by decide), other '#' (by decide), other '<' (by decide),
    other '>' (by decide), other '\'' (by decide)]
  rfl

theorem percentEncode_query {usualPort : Option Nat} {cs : List Char}
    (plain : ∀ c ∈ cs, isPathChar c = true) :
    percentEncode (Rules.web usualPort).unsafeInQuery cs = cs :=
  percentEncode_eq_self fun c member =>
    ⟨isPrinted_of_isPathChar (plain c member), unsafeInQuery_of_isPathChar (plain c member)⟩

/-- What is asked for behind a slash is what is written there, below a folder that does not depend on
    it: a part of the path, or of the query if one begins before the slash. -/
theorem exists_folder (usualPort : Option Nat) {behind : List Char} (noFragment : '#' ∉ behind)
    (scheme : String) (user : List Char) (host : Host) (port : Option Nat) :
    ∃ folder : String, ∀ path, PlainPath path →
      ((Rules.web usualPort).url scheme user host port (behind ++ path.toList)).target
        = folder ++ path := by
  by_cases question : '?' ∈ behind
  · obtain ⟨front, query, rfl, noQuery⟩ := List.eq_append_cons_of_mem question
    have clean : '#' ∉ front ∧ '#' ∉ query := by simp_all
    refine ⟨String.ofList (normalPath front
      ++ '?' :: percentEncode (Rules.web usualPort).unsafeInQuery query), fun path plain => ?_⟩
    obtain ⟨rest, starts⟩ := plain.starts
    have encoded : percentEncode (Rules.web usualPort).unsafeInQuery (query ++ path.toList)
        = percentEncode (Rules.web usualPort).unsafeInQuery query ++ path.toList := by
      rw [percentEncode_append, percentEncode_query plain.isPathChar]
    have marks {query : List Char} : queryChars (query ++ path.toList) = '?' :: (query ++ path.toList) :=
      queryChars_of_ne_nil (by simp [starts])
    have noFragment : '#' ∉ query ++ path.toList := by
      rw [List.mem_append, not_or]
      exact ⟨clean.2, plain.notMem (by decide)⟩
    rw [List.append_assoc, List.cons_append, ← marks,
      target_url noQuery clean.1 noFragment (by rw [encoded, starts]; simp), encoded, marks]
    apply String.toList_inj.mp
    simp [Rules.web]
  · refine ⟨String.ofList (folderOf behind), fun path plain => ?_⟩
    have encoded : percentEncode (Rules.web usualPort).unsafeInQuery plain.query = plain.query :=
      percentEncode_query plain.plainQuery
    have noMark (mark : Char) (reserved : isUnreserved mark = false) (other : mark ≠ '/')
        (clean : mark ∉ behind) : mark ∉ behind ++ slashed plain.segments := by
      rw [List.mem_append, not_or]
      exact ⟨clean, notMem_slashed plain.plain reserved other⟩
    have noQuery := noMark '?' (by decide) (by decide) question
    have noFragment := noMark '#' (by decide) (by decide) noFragment
    have noFragment' : '#' ∉ plain.query := fun member =>
      ne_of_isPathChar (plain.plainQuery '#' member) (by decide) rfl
    rw [plain.written, ← List.append_assoc,
      target_url noQuery noFragment noFragment' (by rw [encoded]; exact id), encoded]
    have normal : (Rules.web usualPort).pathOf (behind ++ slashed plain.segments)
        = folderOf behind ++ slashed plain.segments :=
      normalPath_append_slashed behind plain.more plain.plain
    apply String.toList_inj.mp
    simp [normal, plain.written]

/-! ## Folders of a server -/

@[simp] theorem address_append (folder : Target) (path : String) : (folder ++ path).address = folder.address :=
  rfl

@[simp] theorem path_append (folder : Target) (path : String) : (folder ++ path).path = folder.path ++ path :=
  rfl

theorem leads?_eq_some_iff {s : Network} {u : Url} {target : Target} :
    s.leads? u = some target ↔ u.scheme = "http" ∧ u.address? = some target.address ∧
      target.address ∈ s.listening ∧ u.target = target.path := by
  obtain ⟨address, path⟩ := target
  unfold Network.leads?
  by_cases web : u.scheme = "http"
  · rw [if_pos web, Option.map_eq_some_iff]
    constructor
    · rintro ⟨given, filtered, same⟩
      obtain ⟨is, listens⟩ := Option.filter_eq_some_iff.mp filtered
      obtain ⟨rfl, target⟩ := Target.mk.inj same
      exact ⟨web, is, List.contains_iff_mem.mp listens, target⟩
    · rintro ⟨-, is, listens, target⟩
      have kept := Option.filter_eq_some_iff.mpr ⟨is, List.contains_iff_mem.mpr listens⟩
      exact ⟨address, kept, congrArg (Target.mk address) target⟩
  · rw [if_neg web]
    exact ⟨nofun, fun leads => absurd leads.1 web⟩

/-- What a server is asked for by a URL, if the URL leads to one. -/
def Network.target? (s : Network) (url : String) : Option Target :=
  (Url.ofText url).toOption.bind s.leads?

/-- A text that is the URL of a folder of a server once a slash is written behind it. -/
def Network.Serves (s : Network) (root : String) (folder : Target) : Prop :=
  ∃ u, Url.ofText (root ++ "/") = .ok u ∧ u.fragment = none ∧ s.leads? u = some (folder ++ "/")

theorem notMem_of_fragment_url {r : Rules} {scheme : String} {user : List Char} {host : Host}
    {port : Option Nat} {cs : List Char} (none : (r.url scheme user host port cs).fragment = none) :
    '#' ∉ cs := by
  intro member
  obtain ⟨front, back, rfl, clean⟩ := List.eq_append_cons_of_mem member
  have cut : (front ++ '#' :: back).span (· != '#') = (front, '#' :: back) :=
    span_append clean fun c first => (Option.some.inj first).symm
  simp only [Rules.url, cut, List.tail?_cons, Option.map_some] at none
  nomatch none

/-- Below the URL of a folder is what is below the folder. -/
theorem Network.Serves.target?_append {s : Network} {root : String} {folder : Target}
    (serves : s.Serves root folder) {path : String} (plain : PlainPath path) :
    s.target? (root ++ path) = some (folder ++ path) := by
  obtain ⟨u, read, whole, leads⟩ := serves
  obtain ⟨web, address, listens, target⟩ := leads?_eq_some_iff.mp leads
  -- The URL of the folder itself says which host and which folder it is for all paths.
  obtain ⟨user, host, port, behind, reads⟩ := ofText_append read web
  obtain rfl : (Rules.web (some 80)).url "http" user host port (behind ++ "/".toList) = u :=
    Except.ok.inj ((reads "/" .slash).symm.trans read)
  have noFragment : '#' ∉ behind := fun member =>
    notMem_of_fragment_url whole (List.mem_append_left _ member)
  obtain ⟨folder₁, targets⟩ := exists_folder (some 80) noFragment "http" user host port
  have same : folder₁ ++ "/" = folder.path ++ "/" := (targets "/" .slash).symm.trans target
  obtain rfl : folder₁ = folder.path := String.append_left_inj "/" |>.mp same
  have leads : s.leads? ((Rules.web (some 80)).url "http" user host port (behind ++ path.toList))
      = some (folder ++ path) :=
    leads?_eq_some_iff.mpr ⟨rfl, address, listens, targets path plain⟩
  rw [Network.target?, reads path plain]
  exact leads

end ActionBridge.Http
