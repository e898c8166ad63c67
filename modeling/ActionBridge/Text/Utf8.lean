/-!
# UTF-8

A byte sequence is read piece by piece: a piece is a character, the longest start of a
character that no next byte can complete, or the start of a character at which the bytes
end. Strict reading reports the first piece that is no character with its position;
lenient reading shows each such piece as one replacement character.
-/
namespace ActionBridge.Utf8

/-! ## Pieces -/

/-- What one reading step finds at the start of a byte sequence. -/
inductive Piece where
  /-- a well-formed character -/
  | char (c : Char)
  /-- `length` bytes that begin no character -/
  | invalid (length : Nat)
  /-- the start of a character at the end of the bytes -/
  | cut
  deriving Repr, DecidableEq

/-- A byte 10xxxxxx, which continues a character. -/
def isContinuation (b : UInt8) : Bool :=
  0x80 ≤ b && b ≤ 0xBF

/-- The bytes that may follow the first byte `a` of a character of three bytes. -/
def secondOfThree (a b : UInt8) : Bool :=
  if a == 0xE0 then 0xA0 ≤ b && b ≤ 0xBF
  else if a == 0xED then 0x80 ≤ b && b ≤ 0x9F
  else isContinuation b

/-- The bytes that may follow the first byte `a` of a character of four bytes. -/
def secondOfFour (a b : UInt8) : Bool :=
  if a == 0xF0 then 0x90 ≤ b && b ≤ 0xBF
  else if a == 0xF4 then 0x80 ≤ b && b ≤ 0x8F
  else isContinuation b

/-- The six bits that a continuation byte carries. -/
def low (b : UInt8) : Nat := b.toNat % 64

/-- The piece that begins with the byte `a` before `rest`, and how many bytes of `rest`
    belong to it. -/
def first (a : UInt8) (rest : List UInt8) : Piece × Nat :=
  if a < 0x80 then (.char (Char.ofNat a.toNat), 0)
  else if a < 0xC2 then (.invalid 1, 0)
  else if a < 0xE0 then
    match rest with
    | [] => (.cut, 0)
    | b :: _ =>
      if isContinuation b then (.char (Char.ofNat ((a.toNat - 0xC0) * 64 + low b)), 1)
      else (.invalid 1, 0)
  else if a < 0xF0 then
    match rest with
    | [] => (.cut, 0)
    | b :: rest =>
      if secondOfThree a b then
        match rest with
        | [] => (.cut, 1)
        | c :: _ =>
          if isContinuation c then
            (.char (Char.ofNat (((a.toNat - 0xE0) * 64 + low b) * 64 + low c)), 2)
          else (.invalid 2, 1)
      else (.invalid 1, 0)
  else if a < 0xF5 then
    match rest with
    | [] => (.cut, 0)
    | b :: rest =>
      if secondOfFour a b then
        match rest with
        | [] => (.cut, 1)
        | c :: rest =>
          if isContinuation c then
            match rest with
            | [] => (.cut, 2)
            | d :: _ =>
              if isContinuation d then
                (.char (Char.ofNat
                  ((((a.toNat - 0xF0) * 64 + low b) * 64 + low c) * 64 + low d)), 3)
              else (.invalid 3, 2)
          else (.invalid 2, 1)
      else (.invalid 1, 0)
  else (.invalid 1, 0)

/-- The pieces of the bytes after the next `skip` ones. -/
def piecesAfter : (skip : Nat) → List UInt8 → List Piece
  | _, [] => []
  | 0, a :: rest => (first a rest).1 :: piecesAfter (first a rest).2 rest
  | skip + 1, _ :: rest => piecesAfter skip rest

/-- The pieces of a byte sequence, in order. -/
def pieces (bytes : List UInt8) : List Piece :=
  piecesAfter 0 bytes

/-! ## Writing -/

/-- The bytes of a text. -/
def encode (cs : List Char) : List UInt8 :=
  cs.flatMap String.utf8EncodeChar

/-- The bytes of a string. -/
def bytesOf (s : String) : List UInt8 :=
  encode s.toList

/-! ## Strict reading -/

/-- Why bytes are no text: the position of the first piece that is no character. -/
inductive Fault where
  /-- `length` bytes at `index` begin no character -/
  | invalid (length index : Nat)
  /-- the bytes end inside the character that begins at `index` -/
  | incomplete (index : Nat)
  deriving Repr, DecidableEq

/-- The wording of a fault. -/
def Fault.message : Fault → String
  | .invalid length index => s!"invalid utf-8 sequence of {length} bytes from index {index}"
  | .incomplete index => s!"incomplete utf-8 byte sequence from index {index}"

/-- The characters of the pieces, or the fault of the first piece that is none. -/
def charsFrom (index : Nat) : List Piece → Except Fault (List Char)
  | [] => .ok []
  | .char c :: rest => (charsFrom (index + c.utf8Size) rest).map (c :: ·)
  | .invalid length :: _ => .error (.invalid length index)
  | .cut :: _ => .error (.incomplete index)

/-- The text that the bytes encode. -/
def decode (bytes : List UInt8) : Except Fault String :=
  (charsFrom 0 (pieces bytes)).map String.ofList

/-! ## Lenient reading -/

/-- The character of a piece, if it is one. -/
def Piece.char? : Piece → Option Char
  | .char c => some c
  | _ => none

/-- The bytes as characters, with `none` for each piece that is no character. -/
def symbols (bytes : List UInt8) : List (Option Char) :=
  (pieces bytes).map Piece.char?

/-- The text of the bytes, with U+FFFD for each piece that is no character. -/
def decodeLenient (bytes : List UInt8) : String :=
  String.ofList ((symbols bytes).map (·.getD '\uFFFD'))

end ActionBridge.Utf8
