import ActionBridge.Text.Blank

/-!
# Multipart boundaries

The content type of a stream names the boundary that separates its parts. Without a boundary
the stream is one piece.
-/
namespace ActionBridge.Multipart
open Text

/-- Whether a media type says that a stream has parts. -/
def isMultipart (media : List Char) : Bool :=
  "multipart/".toList.isPrefixOf ((stripWhile isBlank media).map Char.toLower)

/-- Whether a parameter of this name holds the boundary. -/
def namesBoundary (key : List Char) : Bool :=
  (stripWhile isBlank key).map Char.toLower == "boundary".toList

/-- A value without space and double quotes around it. -/
def unquoted (value : List Char) : List Char :=
  stripWhile (· == '"') (stripWhile isBlank value)

/-- The boundary that a parameter holds. -/
def parameterBoundary? (parameter : List Char) : Option String :=
  match splitFirst '=' parameter with
  | none => none
  | some (key, value) =>
    if namesBoundary key then nonEmpty? (String.ofList (unquoted value)) else none

/-- The boundary that a content type names: that of the first parameter that holds one. -/
def boundary? (contentType : String) : Option String :=
  match splitAll ';' contentType.toList with
  | [] => none
  | media :: parameters =>
    if isMultipart media then parameters.findSome? parameterBoundary? else none

end ActionBridge.Multipart
