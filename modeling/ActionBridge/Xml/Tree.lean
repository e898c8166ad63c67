/-!
# XML trees

A document is the tree of its elements. Elements and attributes are named by a namespace and
a local name. The text of an element is that of its first child, if that is text.
-/
namespace ActionBridge.Xml

/-- The name of an element or attribute. -/
structure Name where
  /-- the namespace, if the name has one -/
  space : Option String
  /-- the local name -/
  label : String
  deriving Repr, DecidableEq, Inhabited

/-- An element, or what else stands in one. -/
inductive Node where
  | element (name : Name) (attributes : List (Name × String)) (children : List Node)
  | text (s : String)
  /-- a comment or processing instruction -/
  | aside
  deriving Repr, Inhabited

namespace Node

/-! ## Order -/

mutual
/-- A node and all nodes below it, in document order. -/
def preorder : Node → List Node
  | .element name attributes children =>
    .element name attributes children :: preorderAll children
  | .text s => [.text s]
  | .aside => [.aside]

/-- Nodes and all nodes below them, in document order. -/
def preorderAll : List Node → List Node
  | [] => []
  | node :: rest => node.preorder ++ preorderAll rest
end

/-! ## Access -/

/-- Whether a node is an element of the given name. -/
def isNamed (name : Name) : Node → Bool
  | .element n _ _ => n == name
  | _ => false

/-- The first element of the given name, in document order. -/
def find? (name : Name) (node : Node) : Option Node :=
  node.preorder.find? (·.isNamed name)

/-- The value of the attribute `label` that has no namespace. -/
def attribute? (label : String) : Node → Option String
  | .element _ attributes _ => attributes.lookup ⟨none, label⟩
  | _ => none

/-- The text that an element begins with. -/
def content : Node → String
  | .element _ _ (.text s :: _) => s
  | _ => ""

end Node
end ActionBridge.Xml
