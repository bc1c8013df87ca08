/-!
An attribute of a tag, under the one name that all its spellings share. The offsets and the texts as written are filled
in once they have been found in the source.
-/

namespace TagLint

structure Attribute where
  name : String
  /-- The content, without quotes. -/
  value? : Option String := none
  /-- The value as written, quotes included. -/
  rawValue? : Option String := none
  /-- The `=` with the blanks around it and the value, as written. -/
  rawAssignment? : Option String := none
  nameIndex? : Option Int := none
  /-- Where the value begins; an attribute without a value has it where its name begins. -/
  valueIndex? : Option Int := none
deriving DecidableEq, Repr

namespace Attribute

def hasValue (attr : Attribute) : Bool :=
  attr.rawValue?.isSome

def isLocated (attr : Attribute) : Bool :=
  attr.nameIndex?.isSome

end Attribute

end TagLint
