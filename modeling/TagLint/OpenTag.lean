import TagLint.Attributes
import TagLint.Occurrence.Scan
import TagLint.Text.Case
import TagLint.Text.Enclosed

/-!
Opening tags. The tag's text stands between `<` and `>`; a name ends at its first blank, and attributes may follow.
-/

namespace TagLint

/-- The key that all spellings of a name share. -/
def Occurrence.key (occ : Occurrence) : String :=
  .ofList (Text.lower (Text.trim occ.name))

structure OpenTag where
  /-- The text of the tag, its name included and `<` and `>` left out. -/
  text : String := ""
  /-- Offset of the `<` in the source. -/
  index : Int := 0
deriving DecidableEq, Repr

namespace OpenTag

/-- Length of the tag's name; none where no blank ends it. -/
def nameLength? (tag : OpenTag) : Option Nat :=
  tag.text.toList.findIdx? Text.isBlank

/-- The attributes as written after the name, at offsets of the tag's text. -/
def occurrences (tag : OpenTag) : List Occurrence :=
  match tag.nameLength? with
  | some length => (Occurrence.Cursor.mk length (tag.text.toList.drop length)).remaining
  | none => []

/-- Enters an occurrence under its key, unless its name is blank or its key is taken. -/
def enter (attrs : Attributes) (occ : Occurrence) : Attributes :=
  let key := occ.key
  if key == "" || attrs.contains key then attrs
  else attrs.insert key { name := key, value? := some ((occ.raw?.map fun raw => unquote (.ofList raw)).getD "") }

/-- The attributes of a tag, none of them located. The first occurrence of a name gives its value, which is empty where
the occurrence has none. -/
def attributes (tag : OpenTag) : Attributes :=
  tag.occurrences.foldl enter .empty

/-- Whether the tag closes itself, by a slash as its last character. -/
def isSelfClosing (tag : OpenTag) : Bool :=
  tag.text.toList.getLast? == some '/'

end OpenTag

end TagLint
