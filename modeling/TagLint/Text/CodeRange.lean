/-!
Character properties are given as sorted lists of code point ranges. A lookup walks the list and stops at the first
range that begins past the code point.
-/

namespace TagLint.Text

structure CodeRange where
  first : Nat
  last : Nat

/-- Whether ranges stand in ascending order and are apart from each other. -/
def CodeRange.sorted : List CodeRange → Bool
  | [] => true
  | [range] => range.first ≤ range.last
  | range :: next :: rest => range.first ≤ range.last && range.last < next.first && sorted (next :: rest)

/-- Whether the code point lies in one of the ranges, which are sorted. -/
def inRanges : List CodeRange → Nat → Bool
  | [], _ => false
  | range :: rest, code =>
    if code < range.first then false else code ≤ range.last || inRanges rest code

/-- Every `step`-th code point from `first` to `last`, each moved by `shift` to its other case. -/
structure CodeRun where
  first : Nat
  last : Nat
  step : Nat
  shift : Int

/-- Whether runs stand in the order in which they begin. -/
def CodeRun.sorted : List CodeRun → Bool
  | run :: next :: rest => run.first < next.first && sorted (next :: rest)
  | _ => true

def CodeRun.holds (run : CodeRun) (code : Nat) : Bool :=
  run.first ≤ code && code ≤ run.last && (code - run.first) % run.step == 0

def CodeRun.move (run : CodeRun) (code : Nat) : Char :=
  Char.ofNat (code + run.shift).toNat

/-- The run that holds the code point; runs are sorted by where they begin. -/
def findRun? : List CodeRun → Nat → Option CodeRun
  | [], _ => none
  | run :: rest, code =>
    if code < run.first then none else if run.holds code then some run else findRun? rest code

theorem mem_of_findRun? {runs : List CodeRun} {code : Nat} {run : CodeRun} (found : findRun? runs code = some run) :
    run ∈ runs ∧ run.holds code = true := by
  induction runs with
  | nil => simp [findRun?] at found
  | cons head rest ih =>
    simp only [findRun?] at found
    split at found
    · simp at found
    · split at found
      · simp_all
      · exact ⟨List.mem_cons_of_mem _ (ih found).1, (ih found).2⟩

end TagLint.Text
