import ActionBridge.Decimal.Notation
import ActionBridge.Json.Number

/-!
# JSON documents as written

A document is first read for its form alone: strings with their escapes, numbers with their
digits. What its parts mean is settled afterwards, and only for the parts that somebody asks
for; a part that nobody asks for may hold a string that is no text or a number that is too
great. The characters of a document may be missing where its bytes were no UTF-8.
-/
namespace ActionBridge.Json

/-- A character of a document, or a place where the bytes are no character. -/
abbrev Symbol := Option Char

/-- A part of a string. -/
inductive Glyph where
  | char (c : Char)
  /-- an escape that gives a unit of UTF-16 -/
  | unit (n : Nat)
  /-- bytes that are no character -/
  | undecodable
  deriving Repr, DecidableEq

/-- A document, or a part of one, as it is written. -/
inductive Form where
  | null
  | boolean (flag : Bool)
  | number (n : Numeral)
  | string (glyphs : List Glyph)
  | array (items : List Form)
  | object (members : List (List Glyph × Form))
  deriving Repr, Inhabited

/-! ## Lexical parts -/

/-- Space between the parts of a document. -/
def isSpace : Symbol → Bool
  | some c => c == ' ' || c == '\t' || c == '\n' || c == '\r'
  | none => false

def skipSpace (s : List Symbol) : List Symbol := s.dropWhile isSpace

/-- The value of a hexadecimal digit. -/
def hexValue? : Symbol → Option Nat
  | some c =>
    if '0' ≤ c && c ≤ '9' then some (c.toNat - '0'.toNat)
    else if 'a' ≤ c && c ≤ 'f' then some (c.toNat - 'a'.toNat + 10)
    else if 'A' ≤ c && c ≤ 'F' then some (c.toNat - 'A'.toNat + 10)
    else none
  | none => none

/-- The character that an escape of one letter stands for. -/
def simpleEscape? (c : Char) : Option Char :=
  if c = '"' then some '"'
  else if c = '\\' then some '\\'
  else if c = '/' then some '/'
  else if c = 'b' then some '\x08'
  else if c = 'f' then some '\x0c'
  else if c = 'n' then some '\n'
  else if c = 'r' then some '\r'
  else if c = 't' then some '\t'
  else none

/-- The rest of a string after its opening quote, and what follows its closing one. -/
def readGlyphs : List Symbol → Option (List Glyph × List Symbol)
  | [] => none
  | none :: rest => (readGlyphs rest).map fun (gs, r) => (.undecodable :: gs, r)
  | some '"' :: rest => some ([], rest)
  | some '\\' :: some 'u' :: a :: b :: c :: d :: rest =>
    match hexValue? a, hexValue? b, hexValue? c, hexValue? d with
    | some a, some b, some c, some d =>
      (readGlyphs rest).map fun (gs, r) => (.unit (((a * 16 + b) * 16 + c) * 16 + d) :: gs, r)
    | _, _, _, _ => none
  | some '\\' :: some e :: rest =>
    match simpleEscape? e with
    | some c => (readGlyphs rest).map fun (gs, r) => (.char c :: gs, r)
    | none => none
  | some '\\' :: _ => none
  | some c :: rest =>
    if c.toNat < 0x20 then none
    else (readGlyphs rest).map fun (gs, r) => (.char c :: gs, r)

/-- The digits at the front. -/
def readDigits : List Symbol → List Char × List Symbol
  | some c :: rest =>
    if Decimal.isDigit c then
      let (ds, r) := readDigits rest
      (c :: ds, r)
    else ([], some c :: rest)
  | s => ([], s)

/-- The digits before the point: a zero alone, or digits that begin with another one. -/
def readWhole : List Symbol → Option (List Char × List Symbol)
  | some '0' :: rest => some (['0'], rest)
  | s =>
    let (ds, r) := readDigits s
    if ds.isEmpty then none else some (ds, r)

/-- The point and the digits after it, if there is a point. -/
def readFraction : List Symbol → Option (Option (List Char) × List Symbol)
  | some '.' :: rest =>
    let (ds, r) := readDigits rest
    if ds.isEmpty then none else some (some ds, r)
  | s => some (none, s)

/-- The digits of an exponent after its sign. -/
def readPowerDigits (negative : Bool) (s : List Symbol) :
    Option (Option (Bool × List Char) × List Symbol) :=
  let (ds, r) := readDigits s
  if ds.isEmpty then none else some (some (negative, ds), r)

/-- The exponent, if there is one. -/
def readPower : List Symbol → Option (Option (Bool × List Char) × List Symbol)
  | some c :: rest =>
    if c == 'e' || c == 'E' then
      match rest with
      | some '-' :: rest => readPowerDigits true rest
      | some '+' :: rest => readPowerDigits false rest
      | rest => readPowerDigits false rest
    else some (none, some c :: rest)
  | s => some (none, s)

/-- A number at the front. -/
def readNumeral (s : List Symbol) : Option (Numeral × List Symbol) := do
  let (negative, s) : Bool × List Symbol := match s with
    | some '-' :: rest => (true, rest)
    | s => (false, s)
  let (whole, s) ← readWhole s
  let (fraction, s) ← readFraction s
  let (power, s) ← readPower s
  pure (⟨negative, whole, fraction, power⟩, s)

/-- The rest behind `word`, if it stands at the front. -/
def afterWord (word : String) (s : List Symbol) : Option (List Symbol) :=
  if (word.toList.map some).isPrefixOf s then some (s.drop word.length) else none

/-! ## Documents -/

mutual
/-- A value at the front, after space, within `fuel` steps. -/
def readForm : (fuel : Nat) → List Symbol → Option (Form × List Symbol)
  | 0, _ => none
  | fuel + 1, s =>
    match skipSpace s with
    | some '"' :: rest => (readGlyphs rest).map fun (gs, r) => (.string gs, r)
    | some '[' :: rest =>
      match skipSpace rest with
      | some ']' :: r => some (.array [], r)
      | r => (readItems fuel r).map fun (items, r) => (.array items, r)
    | some '\x7b' :: rest =>
      match skipSpace rest with
      | some '\x7d' :: r => some (.object [], r)
      | r => (readMembers fuel r).map fun (members, r) => (.object members, r)
    | some 'n' :: rest => (afterWord "ull" rest).map fun r => (.null, r)
    | some 't' :: rest => (afterWord "rue" rest).map fun r => (.boolean true, r)
    | some 'f' :: rest => (afterWord "alse" rest).map fun r => (.boolean false, r)
    | r => (readNumeral r).map fun (n, r) => (.number n, r)

/-- The items of an array up to its end. -/
def readItems : (fuel : Nat) → List Symbol → Option (List Form × List Symbol)
  | 0, _ => none
  | fuel + 1, s =>
    match readForm fuel s with
    | none => none
    | some (item, r) =>
      match skipSpace r with
      | some ',' :: r => (readItems fuel r).map fun (items, r) => (item :: items, r)
      | some ']' :: r => some ([item], r)
      | _ => none

/-- The members of an object up to its end. -/
def readMembers : (fuel : Nat) → List Symbol → Option (List (List Glyph × Form) × List Symbol)
  | 0, _ => none
  | fuel + 1, s =>
    match skipSpace s with
    | some '"' :: rest =>
      match readGlyphs rest with
      | none => none
      | some (key, r) =>
        match skipSpace r with
        | some ':' :: r =>
          match readForm fuel r with
          | none => none
          | some (value, r) =>
            match skipSpace r with
            | some ',' :: r =>
              (readMembers fuel r).map fun (members, r) => ((key, value) :: members, r)
            | some '\x7d' :: r => some ([(key, value)], r)
            | _ => none
        | _ => none
    | _ => none
end

/-- A whole document, with nothing but space around its value. Each step takes a symbol or
    comes right before one that does. -/
def Form.read? (s : List Symbol) : Option Form :=
  match readForm (2 * s.length + 2) s with
  | some (form, rest) => if (skipSpace rest).isEmpty then some form else none
  | none => none

/-! ## Meaning -/

/-- The first unit of a character that takes two. -/
def isLeading (n : Nat) : Bool := 0xD800 ≤ n && n ≤ 0xDBFF

/-- The second unit of a character that takes two. -/
def isTrailing (n : Nat) : Bool := 0xDC00 ≤ n && n ≤ 0xDFFF

/-- The characters of a string, in which the units of a pair stand side by side. -/
def glyphChars : List Glyph → Option (List Char)
  | [] => some []
  | .char c :: rest => (glyphChars rest).map (c :: ·)
  | .undecodable :: _ => none
  | .unit high :: rest =>
    if isLeading high then
      match rest with
      | .unit low :: rest =>
        if isTrailing low then
          (glyphChars rest).map
            (Char.ofNat (0x10000 + (high - 0xD800) * 0x400 + (low - 0xDC00)) :: ·)
        else none
      | _ => none
    else if isTrailing high then none
    else (glyphChars rest).map (Char.ofNat high :: ·)

/-- The text of a string, if it is one. -/
def glyphText? (glyphs : List Glyph) : Option String :=
  (glyphChars glyphs).map String.ofList

/-- One more than the deepest nesting of arrays and objects that has a meaning. -/
def nestingBound : Nat := 128

mutual
/-- The value of a form with fewer than `room` arrays and objects inside each other. -/
def Form.valueWithin : (room : Nat) → Form → Option Json
  | _, .null => some .null
  | _, .boolean flag => some (.boolean flag)
  | _, .number n => n.value
  | _, .string glyphs => (glyphText? glyphs).map .string
  | room, .array items => if room ≤ 1 then none else (itemValues (room - 1) items).map .array
  | room, .object members =>
    if room ≤ 1 then none else (memberValues (room - 1) members).map Json.ofMembers

/-- The values of the items of an array. -/
def itemValues : (room : Nat) → List Form → Option (List Json)
  | _, [] => some []
  | room, item :: rest =>
    match item.valueWithin room, itemValues room rest with
    | some v, some vs => some (v :: vs)
    | _, _ => none

/-- The keys and values of the members of an object. -/
def memberValues : (room : Nat) → List (List Glyph × Form) → Option (List (String × Json))
  | _, [] => some []
  | room, (key, form) :: rest =>
    match glyphText? key, form.valueWithin room, memberValues room rest with
    | some k, some v, some vs => some ((k, v) :: vs)
    | _, _, _ => none
end

/-- The value that a document writes. -/
def read? (s : List Symbol) : Option Json :=
  (Form.read? s).bind (Form.valueWithin nestingBound)

/-- The value that a text writes. -/
def ofText? (s : String) : Option Json :=
  read? (s.toList.map some)

end ActionBridge.Json
