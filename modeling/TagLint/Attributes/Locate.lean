import TagLint.OpenTag

/-!
Finding attributes in the text of their tag. The first occurrence that has a value locates an attribute, or the first
occurrence where none has one. What has once been located by a value is never moved.
-/

namespace TagLint

namespace Attribute

/-- Whether an occurrence of the attribute's name tells nothing new: a value has been located, or the occurrence has
none and a name has been located. -/
def passesOver (attr : Attribute) (occ : Occurrence) : Bool :=
  attr.valueIndex?.isSome || (occ.assignment.isNone && attr.nameIndex?.isSome)

/-- Takes offsets and texts from an occurrence, in a tag whose text begins at offset `base`. -/
def take (base : Int) (occ : Occurrence) (attr : Attribute) : Attribute :=
  { attr with
    nameIndex? := some (base + occ.nameStart)
    rawAssignment? := occ.written?.map .ofList
    rawValue? := occ.raw?.map .ofList
    valueIndex? := occ.valueStart?.elim attr.valueIndex? fun start => some (base + start) }

def observe (base : Int) (occ : Occurrence) (attr : Attribute) : Attribute :=
  if attr.passesOver occ then attr else attr.take base occ

/-- Where no value has been located, the name stands for it. -/
def settle (attr : Attribute) : Attribute :=
  { attr with valueIndex? := attr.valueIndex? <|> attr.nameIndex? }

end Attribute

namespace Attributes

/-- Shows an occurrence to the attribute of its key; a blank name belongs to none. -/
def observe (base : Int) (attrs : Attributes) (occ : Occurrence) : Attributes :=
  let key := occ.key
  if key == "" then attrs else attrs.modify key (·.observe base occ)

def locate (attrs : Attributes) (tag : OpenTag) : Attributes :=
  (tag.occurrences.foldl (observe (tag.index + 1)) attrs).map fun _ => Attribute.settle

def unlocated (attrs : Attributes) : List String :=
  (attrs.entries.filter fun (_, attr) => !attr.isLocated).map (·.1)

end Attributes

end TagLint
