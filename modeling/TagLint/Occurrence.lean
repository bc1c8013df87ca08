/-!
An occurrence is one attribute as it is written in an opening tag: the blanks before it, its name and, where it has
one, the assignment of a value. Its pieces are kept as written, so they spell the matched text again.
-/

namespace TagLint

/-- The `=` of an attribute with the blanks around it, and the value as written, quotes included. -/
structure Assignment where
  link : List Char
  raw : List Char
deriving DecidableEq

structure Occurrence where
  /-- Where the occurrence begins, its leading blanks included, counted in characters. -/
  start : Nat
  lead : List Char
  name : List Char
  assignment : Option Assignment
deriving DecidableEq

namespace Occurrence

def written? (occ : Occurrence) : Option (List Char) :=
  occ.assignment.map fun a => a.link ++ a.raw

def raw? (occ : Occurrence) : Option (List Char) :=
  occ.assignment.map (·.raw)

def text (occ : Occurrence) : List Char :=
  occ.lead ++ occ.name ++ occ.written?.getD []

def stop (occ : Occurrence) : Nat :=
  occ.start + occ.text.length

def nameStart (occ : Occurrence) : Nat :=
  occ.start + occ.lead.length

def valueStart? (occ : Occurrence) : Option Nat :=
  occ.assignment.map fun a => occ.nameStart + occ.name.length + a.link.length

end Occurrence

/-- One attribute of a tag in document order: its name and its value, both as written. -/
structure Token where
  name : String
  rawValue? : Option String
deriving DecidableEq

def Occurrence.token (occ : Occurrence) : Token :=
  ⟨.ofList occ.name, occ.raw?.map .ofList⟩

end TagLint
