import ActionBridge.Text.Hex
import ActionBridge.Text.Utf8

/-!
# Percent signs

Characters that may not stand in a part of a URL are written as percent signs with the digits
of their bytes. Which ones these are depends on the part.
-/
namespace ActionBridge.Http
open Text

/-! ## Writing -/

def percentByte (b : UInt8) : List Char :=
  ['%', upperHex (b.toNat / 16), upperHex (b.toNat % 16)]

/-- The text with each character that `unsafeChar` names replaced by its bytes, and each
    character beyond printable ASCII too. -/
def percentEncode (unsafeChar : Char → Bool) (cs : List Char) : List Char :=
  cs.flatMap fun c =>
    if c.toNat ≤ 0x20 || 0x7F ≤ c.toNat || unsafeChar c then
      (String.utf8EncodeChar c).flatMap percentByte
    else [c]

/-! ## Reading -/

/-- The byte whose digits begin a text. -/
def digitsByte? : List UInt8 → Option UInt8
  | a :: b :: _ => do
    let high ← hexDigit? (Char.ofNat a.toNat)
    let low ← hexDigit? (Char.ofNat b.toNat)
    pure (UInt8.ofNat (high * 16 + low))
  | _ => none

/-- The bytes after the next `skip` ones, with each percent sign before the digits of a byte
    replaced by that byte. -/
def percentDecodeAfter : (skip : Nat) → List UInt8 → List UInt8
  | _, [] => []
  | skip + 1, _ :: rest => percentDecodeAfter skip rest
  | 0, a :: rest =>
    match if a = 0x25 then digitsByte? rest else none with
    | some b => b :: percentDecodeAfter 2 rest
    | none => a :: percentDecodeAfter 0 rest

/-- The bytes with each percent sign before the digits of a byte replaced by that byte. -/
def percentDecode (bytes : List UInt8) : List UInt8 :=
  percentDecodeAfter 0 bytes

/-! ## Parts of a URL -/

/-- Characters that may not stand in a fragment. -/
def unsafeInFragment (c : Char) : Bool := c == '"' || c == '<' || c == '>' || c == '\x60'

/-- Characters that may not stand in a path. -/
def unsafeInPath (c : Char) : Bool :=
  unsafeInFragment c || c == '#' || c == '?' || c == '\x7b' || c == '\x7d'

/-- Characters that may not stand in the name or the password of a user. -/
def unsafeInUser (c : Char) : Bool :=
  unsafeInPath c || "/:;=@[\\]^|".toList.contains c

/-- Characters that may not stand in a query. -/
def unsafeInQuery (c : Char) : Bool := c == '"' || c == '#' || c == '<' || c == '>'

end ActionBridge.Http
