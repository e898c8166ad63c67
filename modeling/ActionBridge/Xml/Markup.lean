import ActionBridge.Text.CodePoints
import ActionBridge.Text.Hex
import ActionBridge.Text.Reader

/-!
# XML markup

A document as the sequence of its tags, texts, comments and processing instructions, before
tags are matched and names resolved. Document type declarations are refused, and so are
references to any entity but the five that need no declaration.
-/
namespace ActionBridge.Xml
open Reader

/-! ## Characters -/

def isSpace (c : Char) : Bool := c == ' ' || c == '\t' || c == '\n' || c == '\r'

/-- Characters that a document may hold. -/
def isXmlChar (c : Char) : Bool :=
  if c.toNat < 0x20 then isSpace c else c.toNat != 0xFFFE && c.toNat != 0xFFFF

/-- Ranges of the characters beyond ASCII that may begin a name. -/
def nameStartRanges : List (Nat × Nat) :=
  [(0xC0, 0xD6), (0xD8, 0xF6), (0xF8, 0x2FF), (0x370, 0x37D), (0x37F, 0x1FFF),
   (0x200C, 0x200D), (0x2070, 0x218F), (0x2C00, 0x2FEF), (0x3001, 0xD7FF), (0xF900, 0xFDCF),
   (0xFDF0, 0xFFFD), (0x10000, 0xEFFFF)]

def inRanges (ranges : List (Nat × Nat)) (c : Char) : Bool :=
  ranges.any fun (low, high) => low ≤ c.toNat && c.toNat ≤ high

/-- Characters that may begin a name. -/
def isNameStart (c : Char) : Bool :=
  c.isAlpha || c == ':' || c == '_' || inRanges nameStartRanges c

/-- Characters of a name. -/
def isNameChar (c : Char) : Bool :=
  isNameStart c || c.isDigit || c == '-' || c == '.' || c.toNat == 0xB7
    || inRanges [(0x300, 0x36F), (0x203F, 0x2040)] c

/-! ## Pieces of markup -/

/-- A name as it is written: a qualifier, empty if there is none, and a local name. -/
structure QName where
  qualifier : String
  label : String
  deriving Repr, DecidableEq

/-- A character of a text or attribute value, and whether a reference stands for it. -/
structure Letter where
  char : Char
  isReference : Bool
  deriving Repr, DecidableEq

/-- A piece of markup. -/
inductive Markup where
  | startTag (name : QName) (attributes : List (QName × List Letter)) (isEmpty : Bool)
  | endTag (name : QName)
  | text (letters : List Letter)
  | cdata (chars : List Char)
  /-- a comment or processing instruction -/
  | aside
  deriving Repr

/-! ## Reading pieces -/

def skipSpaces : Reader Unit := do
  let _ ← stretch isSpace

/-- The characters before `stop`, all of which a document may hold. -/
def upTo (stop : List Char) : List Char → Option (List Char × List Char)
  | [] => none
  | c :: rest =>
    if stop.isPrefixOf (c :: rest) then some ([], c :: rest)
    else if isXmlChar c then
      (upTo stop rest).map fun (before, after) => (c :: before, after)
    else none

/-- The characters up to `stop`, and `stop` itself. -/
def through (stop : String) : Reader (List Char) := do
  let cs ← upTo stop.toList
  word stop
  pure cs

/-- Whether `stop` occurs in `cs`. -/
def occursIn (stop : List Char) : List Char → Bool
  | [] => stop.isEmpty
  | c :: rest => stop.isPrefixOf (c :: rest) || occursIn stop rest

/-- A name without regard to qualifiers. -/
def plainName : Reader String := do
  let c ← one isNameStart
  let cs ← stretch isNameChar
  pure (String.ofList (c :: cs))

/-- A name with at most one colon. -/
def qname : Reader QName := do
  let cs ← stretch isNameChar
  let parts : Option (List Char × List Char) :=
    match cs.span (· != ':') with
    | (label, []) => some ([], label)
    | (qualifier, _ :: label) => if label.contains ':' then none else some (qualifier, label)
  match parts with
  | some (qualifier, label) =>
    if qualifier.head?.all isNameStart && label.head?.any isNameStart then
      pure ⟨String.ofList qualifier, String.ofList label⟩
    else Reader.fail
  | none => Reader.fail

/-! ## References -/

/-- The character of a number of 32 bits; a number that no character has gives U+FFFD. -/
def referencedChar? (base : Nat) (ds : List Char) : Option Char :=
  let n := Text.ofBase base ds
  let c := (Text.character? n).getD '\uFFFD'
  if !ds.isEmpty && n < Nat.pow 2 32 && isXmlChar c then some c else none

/-- The characters that have a name of their own. -/
def namedChars : List (String × Char) :=
  [("quot", '"'), ("amp", '&'), ("apos", '\''), ("lt", '<'), ("gt", '>')]

/-- A reference to a character, by number or by name. -/
def reference : Reader Letter := do
  char '&'
  let c : Option Char ←
    (do word "#x"; pure (referencedChar? 16 (← stretch fun c => (Text.hexDigit? c).isSome)))
    <|> (do char '#'; pure (referencedChar? 10 (← stretch Char.isDigit)))
    <|> (do pure (namedChars.lookup (← plainName)))
  char ';'
  match c with
  | some c => pure ⟨c, true⟩
  | none => Reader.fail

/-- A character that stands for itself. -/
def plainLetter (p : Char → Bool) : Reader Letter := do
  let c ← one fun c => isXmlChar c && p c && c != '&'
  pure ⟨c, false⟩

/-! ## Tags -/

/-- The value of an attribute, in either kind of quotes. -/
def attributeValue : Reader (List Letter) := do
  let quote ← one fun c => c == '"' || c == '\''
  let letters ← many (reference <|> plainLetter fun c => c != quote && c != '<')
  char quote
  pure letters

/-- A name, an equals sign and a value. -/
def tagAttribute : Reader (QName × List Letter) := do
  let name ← qname
  skipSpaces
  char '='
  skipSpaces
  let value ← attributeValue
  pure (name, value)

/-- A start tag, or the tag of an element without content. Space stands before each
    attribute. -/
def startTag : Reader Markup := do
  char '<'
  let name ← qname
  let attributes ← many (do let _ ← stretch1 isSpace; tagAttribute)
  skipSpaces
  (do word "/>"; pure (.startTag name attributes true))
    <|> (do char '>'; pure (.startTag name attributes false))

def endTag : Reader Markup := do
  word "</"
  let name ← qname
  skipSpaces
  char '>'
  pure (.endTag name)

/-! ## Text and asides -/

/-- Text up to the next tag. It does not hold the end mark of a character data section. -/
def text : Reader Markup := fun cs => do
  let raw := cs.takeWhile (· != '<')
  if raw.isEmpty || occursIn "]]>".toList raw then none
  else
    let (letters, rest) ← many (reference <|> plainLetter fun c => c != '<') cs
    if rest.head?.all (· == '<') then some (.text letters, rest) else none

/-- A comment, in which two hyphens never stand together. -/
def comment : Reader Markup := do
  word "<!--"
  let cs ← through "-->"
  if occursIn "--".toList cs || cs.getLast? == some '-' then Reader.fail else pure .aside

def cdata : Reader Markup := do
  word "<![CDATA["
  pure (.cdata (← through "]]>"))

/-- A processing instruction; an XML declaration is none. -/
def instruction : Reader Markup := do
  if ← sees "<?xml " then Reader.fail
  else
    word "<?"
    let _ ← plainName
    skipSpaces
    let _ ← through "?>"
    pure .aside

/-- The next piece of markup. -/
def markup : Reader Markup := do
  if ← sees "<!--" then comment
  else if ← sees "<![CDATA[" then cdata
  else if ← sees "<?" then instruction
  else if ← sees "</" then endTag
  else if ← sees "<" then startTag
  else text

/-! ## Documents -/

/-- Space after a part of the declaration, or the end of the declaration. -/
def declarationSpace : Reader Unit := do
  if ← sees "?>" then pure ()
  else if ← atEnd then pure ()
  else
    let _ ← stretch1 isSpace

/-- An XML declaration. Its version comes first, and the values do not matter. -/
def declaration : Reader Unit := do
  word "<?xml"
  declarationSpace
  if !(← sees "version") then Reader.fail
  let _ ← rawAttribute
  declarationSpace
  if ← sees "encoding" then
    let _ ← rawAttribute
    declarationSpace
  if ← sees "standalone" then
    let _ ← rawAttribute
  skipSpaces
  word "?>"
where
  /-- An attribute whose value is not looked into. -/
  rawAttribute : Reader Unit := do
    let _ ← qname
    skipSpaces
    char '='
    skipSpaces
    let quote ← one fun c => c == '"' || c == '\''
    let _ ← stretch fun c => isXmlChar c && c != quote && c != '<'
    char quote

/-- The markup of a document. A byte order mark may begin it. -/
def markupOf? (cs : List Char) : Option (List Markup) :=
  let cs := match cs with
    | '\uFEFF' :: rest => rest
    | cs => cs
  whole? (do
    if ← sees "<?xml " then declaration
    many markup) cs

end ActionBridge.Xml
