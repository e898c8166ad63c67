import ActionBridge.Text.Blank
import ActionBridge.Text.Utf8

/-!
# Responses

A response reaches the client as a line with its status, lines with its properties, and a body.
What comes in between is cut to what such lines can say. A body may break off.
-/
namespace ActionBridge.Http
open Text

/-- What a server answers. No property says where else to ask: redirections are left out, and an
    answer of status 301, say, is one like any other below 400. -/
structure Response where
  status : Nat := 200
  reason : String := "OK"
  contentType : Option String := none
  body : List UInt8 := []
  /-- the error on which the body breaks off behind these bytes, if it does -/
  broken : Option String := none
  deriving Repr, DecidableEq

/-- Why the line with the status cannot be read. -/
inductive StatusFault where
  | notAscii
  /-- a status has three digits -/
  | notThreeDigits
  deriving Repr, DecidableEq

def StatusFault.message : StatusFault → String
  | .notAscii => "Status line not ASCII"
  | .notThreeDigits => "Status code was wrong length"

/-- The text up to the first line feed. -/
def firstLine (s : String) : List Char := s.toList.takeWhile (· != '\n')

/-- The reason that a status line with this status shows. -/
def readReason (status : Nat) (reason : String) : Except StatusFault String :=
  let line := firstLine reason
  if !line.all (·.toNat < 0x80) then .error .notAscii
  else if (toString status).length ≠ 3 then .error .notThreeDigits
  else .ok (String.ofList (stripWhile isBlank line))

/-- Characters of which the value of a property consists. -/
def isValueChar (c : Char) : Bool := c == '\t' || (0x20 ≤ c.toNat && c.toNat ≤ 0x7E)

/-- The value of a property: a line without space around it. A value with other characters is
    passed over. -/
def readValue? (value : String) : Option String :=
  let line := stripWhile isBlank (firstLine value)
  if line.all isValueChar then some (String.ofList line) else none

/-- Statuses whose responses have no body. -/
def hasNoBody (status : Nat) : Bool := status == 204 || status == 304

/-- The response as the client reads it. -/
def Response.received (r : Response) : Except StatusFault Response := do
  let reason ← readReason r.status r.reason
  pure
    { status := r.status
      reason := reason
      contentType := r.contentType.bind readValue?
      body := if hasNoBody r.status then [] else r.body
      broken := if hasNoBody r.status then none else r.broken }

/-! ## Bodies -/

/-- The body, if it does not break off. -/
def Response.whole? (r : Response) : Option (List UInt8) :=
  match r.broken with
  | none => some r.body
  | some _ => none

/-- The most bytes that are taken for a text. -/
def textLimit : Nat := 10 * 1024 * 1024

/-- The text of the body. No more of the body is read than one byte beyond the limit. -/
def Response.text (r : Response) : Except String String :=
  if textLimit < r.body.length then .error "response too big for into_string"
  else
    match r.broken with
    | none => .ok (Utf8.decodeLenient r.body)
    | some reason => .error reason

end ActionBridge.Http
