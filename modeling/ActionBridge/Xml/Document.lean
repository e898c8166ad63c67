import ActionBridge.Xml.Markup
import ActionBridge.Xml.Tree

/-!
# XML documents

The tree of a document: each end tag closes the element opened last, qualifiers are replaced
by the namespaces that are declared for them, line breaks become line feeds, and texts that
stand side by side become one.
-/
namespace ActionBridge.Xml

/-! ## Line breaks -/

/-- Puts a character of a text behind what stands there, in reverse. A carriage return waits
    for the next character, which decides what becomes of it. -/
def pushText (done : List Char) (c : Char) (isLast : Bool) : List Char :=
  match done with
  | '\r' :: before =>
    if isLast && c == '\r' then '\n' :: '\n' :: before
    else if c == '\n' then '\n' :: before
    else c :: '\n' :: before
  | _ => if isLast && c == '\r' then '\n' :: done else c :: done

/-- The characters of a text with line feeds as its line breaks. Referenced characters and
    the character right behind one stand as they are. -/
def joinText (done : List Char) (asIs : Bool) : List Letter → List Char
  | [] => done.reverse
  | ⟨c, true⟩ :: rest => joinText (c :: done) true rest
  | ⟨c, false⟩ :: rest =>
    if asIs then joinText (c :: done) false rest
    else joinText (pushText done c rest.isEmpty) false rest

/-- The characters of a section without references, with line feeds as its line breaks. -/
def joinPlain (done : List Char) : List Char → List Char
  | [] => done.reverse
  | c :: rest => joinPlain (pushText done c rest.isEmpty) rest

/-- The value of an attribute: a line break or tab becomes one space, unless a reference
    stands for it. -/
def joinValue : List Letter → List Char
  | [] => []
  | ⟨c, true⟩ :: rest => c :: joinValue rest
  | ⟨'\r', false⟩ :: ⟨'\n', false⟩ :: rest => joinValue (⟨'\n', false⟩ :: rest)
  | ⟨c, false⟩ :: rest => (if isSpace c then ' ' else c) :: joinValue rest

/-! ## Namespaces -/

/-- The namespace of the qualifier `xml`. -/
def xmlSpace : String := "http://www.w3.org/XML/1998/namespace"

/-- The namespace of the qualifier `xmlns`. -/
def xmlnsSpace : String := "http://www.w3.org/2000/xmlns/"

/-- The namespaces that qualifiers stand for, nearest first. The empty qualifier stands for
    the namespace of elements without one. -/
abbrev Bindings := List (String × String)

/-- What an attribute of a tag is. -/
inductive Role where
  /-- it declares a namespace for a qualifier -/
  | declares (qualifier space : String)
  /-- it says again what the qualifier `xml` stands for -/
  | restates
  | ordinary (name : QName) (value : String)

/-- The role of an attribute, unless it declares what may not be declared. -/
def roleOf (written : QName × List Letter) : Option Role :=
  let (name, letters) := written
  let value := String.ofList (joinValue letters)
  if name.qualifier = "xmlns" then
    if value = xmlnsSpace then none
    else if name.label = "xml" then (if value = xmlSpace then some .restates else none)
    else if value = xmlSpace then none
    else some (.declares name.label value)
  else if name.label = "xmlns" then
    if value = xmlSpace ∨ value = xmlnsSpace then none else some (.declares "" value)
  else some (.ordinary name value)

/-- The declarations of a tag. -/
def declared : List Role → Bindings
  | [] => []
  | .declares qualifier space :: rest => (qualifier, space) :: declared rest
  | _ :: rest => declared rest

/-- The ordinary attributes of a tag. -/
def ordinary : List Role → List (QName × String)
  | [] => []
  | .ordinary name value :: rest => (name, value) :: ordinary rest
  | _ :: rest => ordinary rest

/-- The name of an attribute: without a qualifier it has no namespace. -/
def attributeName (bindings : Bindings) (name : QName) : Option Name :=
  if name.qualifier = "xml" then some ⟨some xmlSpace, name.label⟩
  else if name.qualifier = "" then some ⟨none, name.label⟩
  else (bindings.lookup name.qualifier).map fun space => ⟨some space, name.label⟩

/-- The name of an element: without a qualifier it has the namespace declared for such. -/
def elementName (bindings : Bindings) (name : QName) : Option Name :=
  match bindings.lookup name.qualifier with
  | some space => some ⟨some space, name.label⟩
  | none => if name.qualifier = "" then some ⟨none, name.label⟩ else none

/-- An element whose end tag is still to come, with its children in reverse. -/
structure Open where
  tag : QName
  name : Name
  attributes : List (Name × String)
  bindings : Bindings
  children : List Node

/-- The element that a start tag opens inside of the given bindings. No qualifier is declared
    twice and no name stands twice. -/
def openElement (outer : Bindings) (tag : QName) (attributes : List (QName × List Letter)) :
    Option Open := do
  if tag.qualifier = "xmlns" then none
  let roles ← attributes.mapM roleOf
  let own := declared roles
  let qualifiers := (own.map Prod.fst).filter (· ≠ "")
  if ¬ qualifiers.Nodup then none
  let bindings := own ++ outer
  let named ← (ordinary roles).mapM fun (name, value) =>
    (attributeName bindings name).map fun n => (n, value)
  if ¬ (named.map Prod.fst).Nodup then none
  let name ← elementName bindings tag
  pure ⟨tag, name, named, bindings, []⟩

/-! ## Trees -/

/-- The node of an element that ends. -/
def Open.close (e : Open) : Node :=
  .element e.name e.attributes e.children.reverse

/-- Adds text behind the children so far; it continues a text that stands there. -/
def addText (s : List Char) : List Node → List Node
  | .text before :: rest => .text (before ++ String.ofList s) :: rest
  | children => .text (String.ofList s) :: children

/-- What has been read of a document: the elements still open, innermost first, and the root
    once it is complete. -/
structure Progress where
  stack : List Open
  root : Option Node

/-- Adds a complete element. -/
def Progress.complete (p : Progress) (node : Node) : Progress :=
  match p.stack with
  | [] => { p with root := some node }
  | e :: outer => { p with stack := { e with children := node :: e.children } :: outer }

/-- Reads one more piece of markup. Outside of the root there is only space and asides, and
    there is only one root. -/
def Progress.add (p : Progress) (m : Markup) : Option Progress :=
  match m, p.stack with
  | .startTag tag attributes isEmpty, stack => do
    if stack.isEmpty && p.root.isSome then none
    let e ← openElement (stack.head?.elim [] (·.bindings)) tag attributes
    if isEmpty then pure (p.complete e.close) else pure { p with stack := e :: stack }
  | .endTag tag, e :: outer =>
    if e.tag = tag then some ({ p with stack := outer }.complete e.close) else none
  | .endTag _, [] => none
  | .text letters, e :: outer =>
    some { p with stack := { e with children := addText (joinText [] false letters) e.children }
                            :: outer }
  | .text letters, [] =>
    if letters.all fun l => isSpace l.char && !l.isReference then some p else none
  | .cdata cs, e :: outer =>
    some { p with stack := { e with children := addText (joinPlain [] cs) e.children } :: outer }
  | .cdata _, [] => none
  | .aside, e :: outer =>
    some { p with stack := { e with children := .aside :: e.children } :: outer }
  | .aside, [] => some p

/-- The root of the document that a text writes, if the text is well-formed. -/
def read? (s : String) : Option Node := do
  let pieces ← markupOf? s.toList
  let p ← pieces.foldlM Progress.add ⟨[], none⟩
  if p.stack.isEmpty then p.root else none

end ActionBridge.Xml
