import ActionBridge.Document.Element
import ActionBridge.Fault
import ActionBridge.Xml.Document

/-!
# Excerpts

What the bridge takes from a document of the agent: where the stream goes on, and the first
element of each watched action with its state and name. Elements count only in the
namespace of the agent's documents.
-/
namespace ActionBridge

/-- The namespace of the agent's documents unless another one is configured. -/
def defaultNamespace : String := "urn:mtconnect.org:MTConnectStreams:1.2"

/-- What a document says. -/
structure Excerpt where
  nextSequence : String
  elements : List Element
  deriving Repr, DecidableEq

namespace Excerpt

/-- The first element of a document that is named `label` in the namespace `space`. -/
def first? (space label : String) (root : Xml.Node) : Option Xml.Node :=
  root.find? ⟨some space, label⟩

/-- The elements of the watched actions that occur, in the order of the actions. -/
def elementsOf (space : String) (root : Xml.Node) :
    (watched : List String) → Except ParseFault (List Element)
  | [] => .ok []
  | action :: watched =>
    match first? space action root with
    | none => elementsOf space root watched
    | some node =>
      match node.attribute? "name" with
      | none => .error (.nameMissing action)
      | some handshake =>
        (elementsOf space root watched).map
          (Element.ofTexts action node.content handshake :: ·)

/-- The excerpt of a document. -/
def ofDocument (space : String) (watched : List String) (root : Xml.Node) :
    Except ParseFault Excerpt :=
  match first? space "Header" root with
  | none => .error .headerMissing
  | some header =>
    match header.attribute? "nextSequence" with
    | none => .error .sequenceMissing
    | some sequence => (elementsOf space root watched).map fun es => ⟨sequence, es⟩

/-- The excerpt of a text. -/
def parse (space : String) (watched : List String) (text : String) :
    Except ParseFault Excerpt :=
  match Xml.read? text with
  | none => .error .malformed
  | some root => ofDocument space watched root

/-- The excerpt of bytes. -/
def parseBytes (space : String) (watched : List String) (bytes : List UInt8) :
    Except ParseFault Excerpt :=
  match Utf8.decode bytes with
  | .error fault => .error (.notUtf8 fault)
  | .ok text => parse space watched text

/-- The text of the first element named `label`, without space around it. -/
def textOf (space label text : String) : Except ParseFault (Option String) :=
  match Xml.read? text with
  | none => .error .malformed
  | some root => .ok ((first? space label root).map fun node => Text.trim node.content)

end Excerpt
end ActionBridge
