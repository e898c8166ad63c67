import ActionBridge.Http.Percent
import ActionBridge.Text.Blank

/-!
# Paths of URLs

The path of a URL is a list of segments. The segments `.` and `..` are resolved, and the others
are percent-encoded. The segment of a drive, a letter with a colon, is never left upwards.
-/
namespace ActionBridge.Http
open Text

/-- A path, by its segments. -/
abbrev Segments := List (List Char)

/-! ## Segments -/

/-- The segment that stands for the directory itself. -/
def isHere (segment : List Char) : Bool :=
  let s := lower (String.ofList segment)
  s == "." || s == "%2e"

/-- The segment that stands for the directory above. -/
def isAbove (segment : List Char) : Bool :=
  let s := lower (String.ofList segment)
  s == ".." || s == ".%2e" || s == "%2e." || s == "%2e%2e"

/-- The segment of a drive: a letter and a colon, or a bar in its place. -/
def isDrive : List Char → Bool
  | [letter, mark] => letter.isAlpha && (mark == ':' || mark == '|')
  | _ => false

/-! ## Paths in normal form -/

/-- The segments without the last one, unless it is that of a drive. Paths are in reverse here,
    the last segment first. -/
def leave : Segments → Segments
  | [] => []
  | last :: before => if isDrive last then last :: before else before

/-- The segments without those that stand for directories. The first argument holds the segments
    so far, in reverse. -/
def resolve (done : Segments) : Segments → Segments
  | [] => done.reverse
  | [segment] =>
    if isAbove segment then ([] :: leave done).reverse
    else if isHere segment then ([] :: done).reverse
    else (percentEncode unsafeInPath segment :: done).reverse
  | segment :: rest =>
    if isAbove segment then resolve (leave done) rest
    else if isHere segment then resolve done rest
    else resolve (percentEncode unsafeInPath segment :: done) rest

/-- The segments of a path whose first slash does not count. -/
def segmentsOf (cs : List Char) : Segments :=
  match splitAll '/' cs with
  | [] :: segment :: rest => segment :: rest
  | segments => segments

/-- The segments with a slash before each. -/
def slashed (segments : Segments) : List Char := segments.flatMap ('/' :: ·)

/-- A path in normal form; the empty path is that of the root. -/
def normalPath (cs : List Char) : List Char :=
  slashed (resolve [] (segmentsOf cs))

end ActionBridge.Http
