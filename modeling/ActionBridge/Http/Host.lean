import ActionBridge.Decimal.Notation
import ActionBridge.Http.NameCharacters
import ActionBridge.Http.Percent
import ActionBridge.Http.Punycode
import ActionBridge.Text.Extending
import ActionBridge.Text.Unprintable

/-!
# Hosts

The host of a URL is a name, or an address of four bytes or of eight pieces of 16 bits. A name
whose last label is a number has to be an address.
-/
namespace ActionBridge.Http
open Text Decimal

/-- A host. -/
inductive Host where
  | name (text : String)
  /-- an address of 32 bits -/
  | ipv4 (address : Nat)
  /-- an address of eight pieces of 16 bits each -/
  | ipv6 (pieces : List Nat)
  deriving Repr, DecidableEq

/-! ## Addresses of four bytes -/

/-- A number in base 16, 8 or 10, as its first digits say. -/
def ipv4Number? : List Char → Option Nat
  | [] => none
  | '0' :: 'x' :: ds | '0' :: 'X' :: ds => if areDigits 16 ds then some (ofBase 16 ds) else none
  | '0' :: d :: ds => if areDigits 8 (d :: ds) then some (ofBase 8 (d :: ds)) else none
  | ds => if areDigits 10 ds then some (ofBase 10 ds) else none

/-- The labels of a name without an empty last one. -/
def withoutFinalEmpty (labels : List (List Char)) : List (List Char) :=
  if labels.getLast? = some [] then labels.dropLast else labels

/-- Whether the last label is a number. -/
def endsInNumber (labels : List (List Char)) : Bool :=
  match (withoutFinalEmpty labels).getLast? with
  | some last => (last != [] && areDigits 10 last) || (ipv4Number? last).isSome
  | none => false

/-- The address of at most four numbers: all but the last are bytes, and the last one stands for
    all the bytes that are left. -/
def ipv4? (labels : List (List Char)) : Option Nat := do
  let numbers ← (withoutFinalEmpty labels).mapM ipv4Number?
  let bytes := numbers.dropLast
  let last ← numbers.getLast?
  let room := Nat.pow 256 (4 - bytes.length)
  if numbers.length ≤ 4 ∧ bytes.all (· < 256) ∧ last < room then
    some (bytes.foldl (fun n b => n * 256 + b) 0 * room + last)
  else none

/-- The four bytes of an address with points in between. -/
def ipv4Text (address : Nat) : String :=
  ".".intercalate
    ([Nat.pow 256 3, Nat.pow 256 2, 256, 1].map fun unit => toString (address / unit % 256))

/-! ## Addresses of eight pieces -/

/-- A piece of one to four hexadecimal digits. -/
def piece? (ds : List Char) : Option Nat :=
  if ds ≠ [] ∧ ds.length ≤ 4 ∧ areDigits 16 ds then some (ofBase 16 ds) else none

/-- A byte in decimal digits, without needless zeros. -/
def plainByte? (ds : List Char) : Option Nat := do
  let n ← natural? ds
  if n < 256 ∧ (ds.head? ≠ some '0' ∨ ds.length = 1) then some n else none

/-- The two pieces that four bytes with points in between make. -/
def dottedPieces? (cs : List Char) : Option (List Nat) := do
  match ← (splitAll '.' cs).mapM plainByte? with
  | [a, b, c, d] => some [a * 256 + b, c * 256 + d]
  | _ => none

/-- The pieces between colons; the last may be written as four bytes if `dotted`. -/
def piecesOf? (dotted : Bool) (groups : List (List Char)) : Option (List Nat) :=
  match groups with
  | [] => some []
  | [last] =>
    if dotted && last.contains '.' then dottedPieces? last else (piece? last).map fun n => [n]
  | group :: groups => do
    let n ← piece? group
    let ns ← piecesOf? dotted groups
    pure (n :: ns)

/-- The pieces of a stretch, which may be empty. -/
def stretchPieces? (dotted : Bool) (cs : List Char) : Option (List Nat) :=
  if cs.isEmpty then some [] else piecesOf? dotted (splitAll ':' cs)

/-- What stands before and after the first two colons in a row. -/
def splitGap : List Char → Option (List Char × List Char)
  | ':' :: ':' :: rest => some ([], rest)
  | c :: rest => (splitGap rest).map fun (before, after) => (c :: before, after)
  | [] => none

/-- The eight pieces of an address. Two colons in a row stand for at least one zero. -/
def ipv6? (cs : List Char) : Option (List Nat) := do
  match splitGap cs with
  | none =>
    let pieces ← stretchPieces? true cs
    if pieces.length = 8 then some pieces else none
  | some (before, after) =>
    let first ← stretchPieces? false before
    let last ← stretchPieces? true after
    let count := first.length + last.length
    if count < 8 then some (first ++ List.replicate (8 - count) 0 ++ last) else none

/-- The number of zeros that begin a list. -/
def leadingZeros (pieces : List Nat) : Nat := (pieces.takeWhile (· == 0)).length

/-- The place and the length of the first longest stretch of two zeros or more. -/
def longestZeros (pieces : List Nat) : Option (Nat × Nat) :=
  (List.range pieces.length).foldl (fun best i =>
    let n := leadingZeros (pieces.drop i)
    if (best.elim 1 Prod.snd) < n then some (i, n) else best) none

def colonText (pieces : List Nat) : String := ":".intercalate (pieces.map hex)

/-- The pieces with colons in between, and two colons for the longest stretch of zeros. -/
def ipv6Text (pieces : List Nat) : String :=
  match longestZeros pieces with
  | none => colonText pieces
  | some (i, n) => colonText (pieces.take i) ++ "::" ++ colonText (pieces.drop (i + n))

/-- The host as it stands in a URL. -/
def Host.text : Host → String
  | .name text => text
  | .ipv4 address => ipv4Text address
  | .ipv6 pieces => "[" ++ ipv6Text pieces ++ "]"

/-! ## Names -/

/-- Marks of ASCII that no name has. -/
def isNoNameMark (c : Char) : Bool :=
  c.toNat ≤ 0x20 || c.toNat == 0x7F || "%#/:<>?@[\\]^|".toList.contains c

/-- What a character of a name becomes: letters of ASCII are in lower case. -/
def nameChars? (c : Char) : Option (List Char) :=
  if c.toNat < 0x80 then some [c.toLower]
  else if ignored.has c then some []
  else match asciiForm? c with
    | some form => some form
    | none => if isUnprintable c || refused.has c then none else some [c]

/-- Whether a character of a name stays as it is. -/
def isSettled (c : Char) : Bool := nameChars? c == some [c] && !isNoNameMark c

/-- How labels begin that stand for others with characters beyond ASCII. -/
def codedMark : List Char := "xn--".toList

/-- The label that a coded one stands for, if it does so properly: it has characters beyond
    ASCII, and all of its characters are settled. -/
def codedLabel? (label : List Char) : Option (List Char) := do
  let cs ← Punycode.decode? (label.drop codedMark.length)
  if label.all (·.toNat < 0x80) && cs.any (0x80 ≤ ·.toNat) && cs.all isSettled then some cs
  else none

/-- Whether a label may occur: it does not begin with a character that extends the one before,
    and neither does the one it stands for. -/
def isLabel (label : List Char) : Bool :=
  let shown := if codedMark.isPrefixOf label then codedLabel? label else some label
  shown.any fun cs => !cs.head?.any isExtending

/-- The label in ASCII. -/
def asciiLabel (label : List Char) : List Char :=
  if label.all (·.toNat < 0x80) then label else codedMark ++ Punycode.encode label

/-- The labels of a name, if all its characters may occur. -/
def labels? (cs : List Char) : Option (List (List Char)) := do
  let cs := (← cs.mapM nameChars?).flatten
  let labels := splitAll '.' cs
  if cs.all (!isNoNameMark ·) && labels.all isLabel then some labels else none

/-! ## Reading -/

/-- Why a text is no URL of a host. -/
inductive UrlFault where
  | emptyHost
  /-- the name of the host has characters that no name has -/
  | invalidName
  | invalidPort
  | invalidIpv4
  | invalidIpv6
  /-- the host of a scheme without rules of its own has marks that no host has -/
  | invalidCharacter
  /-- there is no scheme -/
  | relative
  deriving Repr, DecidableEq

/-- The name of a fault and its wording. -/
def UrlFault.message : UrlFault → String
  | .emptyHost => "EmptyHost: empty host"
  | .invalidName => "IdnaError: invalid international domain name"
  | .invalidPort => "InvalidPort: invalid port number"
  | .invalidIpv4 => "InvalidIpv4Address: invalid IPv4 address"
  | .invalidIpv6 => "InvalidIpv6Address: invalid IPv6 address"
  | .invalidCharacter => "InvalidDomainCharacter: invalid domain character"
  | .relative => "RelativeUrlWithoutBase: relative URL without a base"

/-- The value, or the fault if there is none. -/
def orFault {α : Type} (fault : UrlFault) : Option α → Except UrlFault α
  | some a => .ok a
  | none => .error fault

/-- The host between brackets, of which the first one is already read. -/
def bracketedHost (cs : List Char) : Except UrlFault Host :=
  if cs.getLast? = some ']' then (orFault .invalidIpv6 (ipv6? cs.dropLast)).map .ipv6
  else .error .invalidIpv6

/-- The host of a URL of the web. -/
def Host.read : List Char → Except UrlFault Host
  | '[' :: cs => bracketedHost cs
  | cs => do
    let cs ← match Utf8.decode (percentDecode (Utf8.encode cs)) with
      | .ok s => .ok s.toList
      | .error _ => .error .invalidName
    let labels ← orFault .invalidName (labels? cs)
    if labels = [[]] then .error .emptyHost
    else if endsInNumber labels then (orFault .invalidIpv4 (ipv4? labels)).map .ipv4
    else .ok (.name (String.ofList (List.intercalate ['.'] (labels.map asciiLabel))))

/-- Marks that no host has. -/
def isNoHostMark (c : Char) : Bool := "\x00\t\n\r #/:<>?@[\\]^|".toList.contains c

/-- The host of a URL whose scheme has no rules of its own. -/
def Host.readPlain : List Char → Except UrlFault Host
  | '[' :: cs => bracketedHost cs
  | cs =>
    if cs.any isNoHostMark then .error .invalidCharacter
    else .ok (.name (String.ofList (percentEncode (fun _ => false) cs)))

end ActionBridge.Http
