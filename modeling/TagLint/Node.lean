import TagLint.Attributes.Locate
import TagLint.NodeType
import TagLint.Notice

/-!
Nodes of a document. A node is built without knowing where its attributes stand; annotating it finds them once, and
from then on they are only read.
-/

namespace TagLint

structure Node where
  type : NodeType := .tag
  name : String := ""
  openTag : OpenTag := {}
  attributes : Attributes := .empty
  /-- The text of a node that has no tag. -/
  data? : Option String := none
  attributesResolved : Bool := false

namespace Node

def isElement (node : Node) : Bool :=
  node.type.isElement

def describe (node : Node) : String :=
  if node.name == "" then "TagNode(" ++ node.type.name ++ ")"
  else "TagNode(" ++ node.type.name ++ ", <" ++ node.name ++ ">, " ++ toString node.attributes.size ++ " attribs)"

/-- The value of an attribute; an absent one, and one without a value, has the empty text. -/
def attributeValue (node : Node) (key : String) : String :=
  ((node.attributes.get? key).bind (·.value?)).getD ""

/-- Whether an attribute is there with a value that is not empty or, where `allowEmpty` holds, with any. -/
def hasAttribute (node : Node) (key : String) (allowEmpty : Bool) : Bool :=
  (node.attributes.get? key).any fun attr => allowEmpty || attr.value?.getD "" != ""

/-- The class names of a node in order. Without any there is one empty name. -/
def classes (node : Node) : List String :=
  (Text.splitBlanks (Text.trim (node.attributeValue "class").toList)).map .ofList

def annotated (node : Node) : Node :=
  if node.attributesResolved then node
  else { node with attributes := node.attributes.locate node.openTag, attributesResolved := true }

def annotationNotices (node : Node) : List Notice :=
  if node.attributesResolved then []
  else match (node.attributes.locate node.openTag).unlocated with
    | [] => []
    | keys => [.unlocated node.name keys]

end Node

end TagLint
