import TagLint.Node
import TagLint.Rule.ClassNoDup

/-! Words of a text. Trimming a text and cutting it at its blanks gives its words, and a class is listed twice where a
word comes again. -/

namespace TagLint.Proofs.Words
open Text

/-- The longest runs of a text without blanks. -/
def words (text : List Char) : List (List Char) :=
  (text.splitOnP isBlank).filter (· ≠ [])

private theorem words_append_blank {c : Char} (blank : isBlank c = true) (before after : List Char) :
    words (before ++ c :: after) = words before ++ words after := by
  rw [words, List.splitOnP_append_cons before after blank, List.filter_append]
  rfl

theorem words_nil : words [] = [] := by
  rw [words, List.splitOnP_nil]
  rfl

private theorem words_of_blanks {text : List Char} (blank : ∀ c ∈ text, isBlank c = true) : words text = [] := by
  induction text with
  | nil => exact words_nil
  | cons c cs ih =>
    obtain ⟨here, rest⟩ := List.forall_mem_cons.mp blank
    have split := words_append_blank here [] cs
    rwa [words_nil, List.nil_append, List.nil_append, ih rest] at split

private theorem words_append_blanks (text : List Char) {blanks : List Char} (blank : ∀ c ∈ blanks, isBlank c = true) :
    words (text ++ blanks) = words text := by
  cases blanks with
  | nil => rw [List.append_nil]
  | cons c cs =>
    obtain ⟨here, rest⟩ := List.forall_mem_cons.mp blank
    rw [words_append_blank here, words_of_blanks rest, List.append_nil]

private theorem words_blanks_append {blanks : List Char} (blank : ∀ c ∈ blanks, isBlank c = true) (text : List Char) :
    words (blanks ++ text) = words text := by
  induction blanks with
  | nil => rfl
  | cons c cs ih =>
    obtain ⟨here, rest⟩ := List.forall_mem_cons.mp blank
    have split := words_append_blank here [] (cs ++ text)
    rw [words_nil, List.nil_append, List.nil_append] at split
    exact split.trans (ih rest)

/-- Trimming takes away blanks at both ends. -/
theorem trim_between (text : List Char) : ∃ before after, text = before ++ trim text ++ after ∧
    (∀ c ∈ before, isBlank c = true) ∧ ∀ c ∈ after, isBlank c = true := by
  have blank (cs : List Char) : ∀ c ∈ cs.takeWhile isBlank, isBlank c = true :=
    List.all_eq_true.mp List.all_takeWhile
  refine ⟨text.takeWhile isBlank, ((trimLeft text).reverse.takeWhile isBlank).reverse, ?_, blank _, ?_⟩
  · have last : (trimLeft text).reverse.takeWhile isBlank ++ trimLeft (trimLeft text).reverse = (trimLeft text).reverse :=
      List.takeWhile_append_dropWhile
    have whole := congrArg List.reverse last
    rw [List.reverse_append, List.reverse_reverse, ← trim] at whole
    rw [List.append_assoc, whole]
    exact List.takeWhile_append_dropWhile.symm
  · intro c member
    exact blank _ c (List.mem_reverse.mp member)

private theorem words_trim (text : List Char) : words (trim text) = words text := by
  obtain ⟨before, after, whole, blankBefore, blankAfter⟩ := trim_between text
  conv => rhs; rw [whole]
  rw [words_append_blanks _ blankAfter, words_blanks_append blankBefore]

/-- Cutting at each run of blanks and cutting at each blank begin with the same piece and differ in empty pieces. -/
theorem splitBlanks_pieces (text : List Char) : ∃ pieces parts,
    splitBlanks text = text.takeWhile (!isBlank ·) :: pieces ∧
    text.splitOnP isBlank = text.takeWhile (!isBlank ·) :: parts ∧ pieces.filter (· ≠ []) = parts.filter (· ≠ []) := by
  induction text with
  | nil => exact ⟨[], [], rfl, List.splitOnP_nil, rfl⟩
  | cons c cs ih =>
    obtain ⟨pieces, parts, split, cut, same⟩ := ih
    rw [splitBlanks, List.splitOnP_cons_eq_if_modifyHead, split, cut]
    cases blank : isBlank c with
    | false => exact ⟨pieces, parts, by simp [blank], by simp [blank], same⟩
    | true =>
      by_cases next : cs.head?.any isBlank = true
      · -- the run of blanks goes on, so the text after it has an empty piece in front already
        obtain ⟨d, head, blankNext⟩ := (Option.any_eq_true _ _).mp next
        obtain ⟨more, rfl⟩ := List.head?_eq_some_iff.mp head
        refine ⟨pieces, [] :: parts, ?_, ?_, ?_⟩
        · simp [blank, blankNext]
        · simp [blank, blankNext]
        · simpa using same
      · refine ⟨cs.takeWhile (!isBlank ·) :: pieces, cs.takeWhile (!isBlank ·) :: parts, ?_, ?_, ?_⟩
        · simp [blank, next]
        · simp [blank]
        · rw [List.filter_cons, List.filter_cons, same]

theorem splitBlanks_words (text : List Char) : (splitBlanks text).filter (· ≠ []) = words text := by
  obtain ⟨pieces, parts, split, cut, same⟩ := splitBlanks_pieces text
  rw [words, split, cut, List.filter_cons, List.filter_cons, same]

theorem classes_words (node : Node) :
    node.classes.filter (· ≠ "") = (words (node.attributeValue "class").toList).map .ofList := by
  rw [Node.classes, List.filter_map, ← words_trim, ← splitBlanks_words]
  congr 2
  funext word
  simp

/-- Nothing is reported of a list of words just where no word comes twice or has been seen before. -/
theorem repeatedWords_eq_nil_iff (seen words : List String) :
    Rule.repeatedWords seen words = [] ↔
      (words.filter (· ≠ "")).Nodup ∧ ∀ word ∈ words.filter (· ≠ ""), word ∉ seen := by
  induction words generalizing seen with
  | nil => simp [Rule.repeatedWords]
  | cons word rest ih =>
    rw [Rule.repeatedWords]
    by_cases empty : word = ""
    · simpa [empty] using ih seen
    · have solid : (word :: rest).filter (· ≠ "") = word :: rest.filter (· ≠ "") := by simp [empty]
      rw [if_neg (by simpa using empty), solid]
      by_cases known : word ∈ seen
      · simp [known]
      · rw [if_neg (by simpa using known), ih, List.nodup_cons, List.forall_mem_cons]
        constructor
        · rintro ⟨distinct, unseen⟩
          refine ⟨⟨fun again => unseen word again List.mem_cons_self, distinct⟩, known, ?_⟩
          exact fun other member old => unseen other member (List.mem_cons_of_mem _ old)
        · rintro ⟨⟨fresh, distinct⟩, -, unseen⟩
          refine ⟨distinct, fun other member old => ?_⟩
          rcases List.mem_cons.mp old with rfl | earlier
          · exact fresh member
          · exact unseen other member earlier

end TagLint.Proofs.Words
