import TagLint.Text.Case
import TagLint.Unknown

/-!
What a node of a document can be. Attributes are no nodes, but rules listen to them in the same way, so they have a type
here too.
-/

namespace TagLint

inductive NodeType
  | tag | style | script | text | comment | directive | cdata
  /-- Stands for the attributes of a tag: rules that listen on it see one attribute at a time. -/
  | attr
deriving DecidableEq, Repr

namespace NodeType

def all : List NodeType :=
  [tag, style, script, text, comment, directive, cdata, attr]

def name : NodeType → String
  | tag => "tag"
  | style => "style"
  | script => "script"
  | text => "text"
  | comment => "comment"
  | directive => "directive"
  | cdata => "cdata"
  | attr => "attr"

def ofName (name : String) : Except Unknown NodeType :=
  match all.find? fun type => type.name == name with
  | some type => .ok type
  | none => .error (.nodeType name)

/-- The type that a word names in any letter case. -/
def ofText (word : String) : Except Unknown NodeType :=
  ofName (Text.lowered word)

/-- The types of nodes that have an opening tag. -/
def elements : List NodeType :=
  [tag, style, script]

def isElement (type : NodeType) : Bool :=
  elements.contains type

end NodeType

end TagLint
