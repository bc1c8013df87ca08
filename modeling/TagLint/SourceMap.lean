import TagLint.Issue

/-!
Lines and columns of a source. The offsets at which lines begin are kept in a table, and the line of an offset is found
by halving the table.
-/

namespace TagLint

/-- The offsets just after the newlines of a text that stands at `offset`. -/
def lineStartsFrom (offset : Nat) : List Char → List Nat
  | [] => []
  | c :: cs => if c == '\n' then (offset + 1) :: lineStartsFrom (offset + 1) cs else lineStartsFrom (offset + 1) cs

/-- How many entries of a sorted table from `lo` on and before `hi` are at most `bound`, with `lo` added. -/
def countUpTo (table : Array Nat) (bound lo hi : Nat) (inside : hi ≤ table.size) : Nat :=
  if range : lo < hi then
    let middle := (lo + hi) / 2
    have : middle < table.size := by omega
    if table[middle] ≤ bound then countUpTo table bound (middle + 1) hi inside
    else countUpTo table bound lo middle (by omega)
  else lo
termination_by hi - lo

structure SourceMap where
  length : Nat
  lineStarts : Array Nat

namespace SourceMap

def ofText (source : String) : SourceMap :=
  ⟨source.length, (0 :: lineStartsFrom 0 source.toList).toArray⟩

def lineCount (map : SourceMap) : Nat :=
  map.lineStarts.size

/-- An offset outside the source stands for the nearer end of it. -/
def clamp (map : SourceMap) (index : Int) : Nat :=
  (min index map.length).toNat

/-- Where an offset lies: its line is the number of lines that begin at or before it. -/
def position (map : SourceMap) (index : Int) : Position :=
  let offset := map.clamp index
  let line := countUpTo map.lineStarts offset 0 map.lineStarts.size (Nat.le_refl _)
  ⟨line, offset - map.lineStarts.getD (line - 1) 0 + 1⟩

def locate (map : SourceMap) (issue : Issue) : Issue :=
  match issue.index? with
  | some index => issue.placed (map.position index)
  | none => issue

def describe (map : SourceMap) : String :=
  "SourceMap(" ++ toString map.lineCount ++ " lines)"

end SourceMap

end TagLint
