import TagLint.Text.Blank
import TagLint.Text.CaseTable
import TagLint.Text.CasedTable

/-!
Letter case of whole texts. Upper case goes character by character; lower case does so too, but for the capital sigma,
which has a form of its own at the end of a word.
-/

namespace TagLint.Text

def isCased (c : Char) : Bool :=
  inRanges casedRanges c.toNat

def isCaseIgnorable (c : Char) : Bool :=
  inRanges caseIgnorableRanges c.toNat

def lowerChar (c : Char) : List Char :=
  if c == 'İ' then ['i', Char.ofNat 0x307]
  else match findRun? lowerRuns c.toNat with
    | some run => [run.move c.toNat]
    | none => [c]

def upperChar (c : Char) : List Char :=
  match upperExpansions.lookup c.toNat with
  | some codes => codes.map Char.ofNat
  | none => match findRun? upperRuns c.toNat with
    | some run => [run.move c.toNat]
    | none => [c]

/-- The next character that is not looked through is a letter with case. -/
def meetsCased (cs : List Char) : Bool :=
  (cs.dropWhile isCaseIgnorable).head?.any isCased

/-- Lower case of the second text, given the text before it read backwards. A capital sigma ends a word when a letter
with case stands before it and none after it. -/
def lowerAfter (before : List Char) : List Char → List Char
  | [] => []
  | c :: cs =>
    let here :=
      if c == 'Σ' then [if meetsCased before && !meetsCased cs then 'ς' else 'σ'] else lowerChar c
    here ++ lowerAfter (c :: before) cs

def lower (cs : List Char) : List Char :=
  lowerAfter [] cs

def upper (cs : List Char) : List Char :=
  cs.flatMap upperChar

/-- Lower case of a text by the full case mapping. -/
def lowered (s : String) : String :=
  .ofList (lower s.toList)

end TagLint.Text
