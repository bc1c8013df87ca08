import TagLint.Occurrence.Scan

/-!
The grammar of attributes, as a pattern that is read by trying its alternatives in order. A pattern has all its readings
of a text, the preferred one first; a repetition prefers to take as much as it can. What a scan should find is thereby
fixed without saying how far each piece reaches.
-/

namespace TagLint.Occurrence

inductive Piece
  | lead | name | link | raw | written
deriving DecidableEq, Repr

inductive Pattern
  | nothing
  | one (p : Char → Bool)
  | many (p : Char → Bool)
  | seq (first second : Pattern)
  /-- The second is tried where the first, with all that follows, does not succeed. -/
  | orElse (first second : Pattern)
  | piece (label : Piece) (body : Pattern)

/-- One way in which a pattern takes up the head of a text. -/
structure Reading where
  matched : List Char := []
  pieces : List (Piece × List Char) := []
  rest : List Char
deriving DecidableEq, Repr

/-- A reading followed by one of what it left. -/
def Reading.append (first second : Reading) : Reading :=
  ⟨first.matched ++ second.matched, first.pieces ++ second.pieces, second.rest⟩

namespace Pattern

/-- The readings of a repetition, the longest first. -/
def runs (p : Char → Bool) : List Char → List Reading
  | [] => [{ rest := [] }]
  | c :: cs =>
    (if p c then (runs p cs).map fun run => { run with matched := c :: run.matched } else []) ++ [{ rest := c :: cs }]

/-- All readings of a text, in the order in which backtracking comes to them. -/
def readings : Pattern → List Char → List Reading
  | nothing, text => [{ rest := text }]
  | one _, [] => []
  | one p, c :: cs => if p c then [{ matched := [c], rest := cs }] else []
  | many p, text => runs p text
  | seq first second, text =>
    (first.readings text).flatMap fun reading => (second.readings reading.rest).map reading.append
  | orElse first second, text => first.readings text ++ second.readings text
  | piece label body, text =>
    (body.readings text).map fun reading => { reading with pieces := reading.pieces ++ [(label, reading.matched)] }

def oneOrMore (p : Char → Bool) : Pattern :=
  seq (one p) (many p)

def enclosed (quote : Char) : Pattern :=
  seq (one (· == quote)) (seq (many (· != quote)) (one (· == quote)))

def assignment : Pattern :=
  seq (piece .link (seq (many Text.isBlank) (seq (one (· == '=')) (many Text.isBlank))))
    (piece .raw (orElse (enclosed '"') (orElse (enclosed '\'') (oneOrMore (!Text.isBlank ·)))))

/-- An attribute as it is written: blanks, a name, and an assignment or none. -/
def attr : Pattern :=
  seq (piece .lead (many Text.isBlank))
    (seq (piece .name (oneOrMore isNameChar)) (orElse (piece .written assignment) nothing))

/-- The preferred readings of a pattern from left to right, each from the first place after the one before it where
there is one, with the offsets of these places. A reading that takes up nothing is passed over. -/
def scanFrom (pattern : Pattern) (offset : Nat) : List Char → List (Nat × Reading)
  | [] => []
  | c :: cs =>
    match (pattern.readings (c :: cs)).head? with
    | some reading =>
      match reading.matched with
      | [] => pattern.scanFrom (offset + 1) cs
      | _ :: more => (offset, reading) :: pattern.scanFrom (offset + 1 + more.length) (cs.drop more.length)
    | none => pattern.scanFrom (offset + 1) cs
termination_by text => text.length

end Pattern

/-- The pieces of an occurrence in the order in which they end. -/
def pieces (occ : Occurrence) : List (Piece × List Char) :=
  [(.lead, occ.lead), (.name, occ.name)] ++ occ.assignment.elim [] fun a =>
    [(.link, a.link), (.raw, a.raw), (.written, a.link ++ a.raw)]

end TagLint.Occurrence
