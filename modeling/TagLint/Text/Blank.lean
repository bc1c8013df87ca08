/-!
Blanks: the characters that separate words, surround values and are trimmed from names. They are the twenty-five white
spaces of Unicode and the four information separators U+001C to U+001F.
-/

namespace TagLint.Text

def isBlank (c : Char) : Bool :=
  let code := c.toNat
  (9 ≤ code && code ≤ 13) || (28 ≤ code && code ≤ 32) || code == 0x85 || code == 0xA0 || code == 0x1680
    || (0x2000 ≤ code && code ≤ 0x200A) || code == 0x2028 || code == 0x2029 || code == 0x202F || code == 0x205F
    || code == 0x3000

def trimLeft (cs : List Char) : List Char :=
  cs.dropWhile isBlank

def trim (cs : List Char) : List Char :=
  (trimLeft (trimLeft cs).reverse).reverse

/-- Cuts a text at every maximal run of blanks, so that `n` runs give `n + 1` pieces; a run at an end leaves an empty
piece there. -/
def splitBlanks : List Char → List (List Char)
  | [] => [[]]
  | c :: cs =>
    if isBlank c then
      if cs.head?.any isBlank then splitBlanks cs else [] :: splitBlanks cs
    else (splitBlanks cs).modifyHead (c :: ·)

/-- Cuts a list at the last element that has the property. -/
def splitLast? (p : α → Bool) : List α → Option (List α × α × List α)
  | [] => none
  | a :: rest =>
    match splitLast? p rest with
    | some (before, last, after) => some (a :: before, last, after)
    | none => if p a then some ([], a, rest) else none

theorem eq_of_splitLast? {p : α → Bool} {items before after : List α} {last : α}
    (found : splitLast? p items = some (before, last, after)) :
    items = before ++ last :: after ∧ p last = true ∧ ∀ a ∈ after, p a = false := by
  induction items generalizing before with
  | nil => simp [splitLast?] at found
  | cons a rest ih =>
    simp only [splitLast?] at found
    split at found
    · rename_i deeper
      simp only [Option.some.injEq, Prod.mk.injEq] at found
      obtain ⟨rfl, rfl, rfl⟩ := found
      obtain ⟨rfl, holds, others⟩ := ih deeper
      exact ⟨rfl, holds, others⟩
    · rename_i absent
      split at found <;> simp only [Option.some.injEq, Prod.mk.injEq, reduceCtorEq] at found
      obtain ⟨rfl, rfl, rfl⟩ := found
      refine ⟨rfl, by assumption, ?_⟩
      clear ih
      induction rest with
      | nil => simp
      | cons b rest ih =>
        simp only [splitLast?] at absent
        split at absent <;> simp_all

theorem splitLast?_eq_none {p : α → Bool} {items : List α} (fails : ∀ a ∈ items, p a = false) :
    splitLast? p items = none := by
  induction items with
  | nil => rfl
  | cons a rest ih =>
    rw [splitLast?, ih fun b member => fails b (List.mem_cons_of_mem a member)]
    simp [fails a List.mem_cons_self]

theorem splitLast?_append {p : α → Bool} {last : α} {after : List α} (before : List α) (holds : p last = true)
    (fails : ∀ a ∈ after, p a = false) : splitLast? p (before ++ last :: after) = some (before, last, after) := by
  induction before with
  | nil => simp [splitLast?, splitLast?_eq_none fails, holds]
  | cons a before ih => simp [splitLast?, ih]

end TagLint.Text
