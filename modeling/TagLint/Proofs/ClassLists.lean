import Mathlib.Data.Finset.Card
import Mathlib.Data.List.TakeWhile
import TagLint.Proofs.Words
import TagLint.Rule.Dispatch

/-! Class lists. The classes of a node are the words of its attribute, whatever blanks stand between and around them, and
each word that has stood in the list before is reported once for each time it comes again. -/

namespace TagLint.Proofs.ClassLists
open Text Words

structure Word where
  chars : List Char
  nonempty : chars ≠ []
  solid : ∀ c ∈ chars, isBlank c = false

def Word.text (word : Word) : String :=
  .ofList word.chars

/-- Words in a row, with blanks between any two of them. -/
inductive Spaced : List Word → List Char → Prop
  | last (word : Word) : Spaced [word] word.chars
  | next (word : Word) {other : Word} {words : List Word} {gap rest : List Char} : gap ≠ [] →
      (∀ c ∈ gap, isBlank c = true) → Spaced (other :: words) rest →
      Spaced (word :: other :: words) (word.chars ++ (gap ++ rest))

/-- Words as the value of an attribute lists them, with any blanks at its ends. -/
inductive Listed : List Word → List Char → Prop
  | nothing {blanks : List Char} : (∀ c ∈ blanks, isBlank c = true) → Listed [] blanks
  | spaced {words : List Word} {before inner after : List Char} : (∀ c ∈ before, isBlank c = true) →
      Spaced words inner → (∀ c ∈ after, isBlank c = true) → Listed words (before ++ (inner ++ after))

section Layout

variable {words : List Word} {text : List Char}

theorem Spaced.begins (spaced : Spaced words text) : ∃ c more, text = c :: more ∧ isBlank c = false := by
  have first (word : Word) (rest : List Char) : ∃ c more, word.chars ++ rest = c :: more ∧ isBlank c = false := by
    obtain ⟨c, more, chars⟩ := List.exists_cons_of_ne_nil word.nonempty
    exact ⟨c, more ++ rest, by rw [chars, List.cons_append], word.solid c (by simp [chars])⟩
  cases spaced with
  | last word =>
    have alone := first word []
    rwa [List.append_nil] at alone
  | next word _ _ _ => exact first word _

theorem Spaced.ends (spaced : Spaced words text) : ∃ front c, text = front ++ [c] ∧ isBlank c = false := by
  induction spaced with
  | last word =>
    refine ⟨word.chars.dropLast, word.chars.getLast word.nonempty, ?_, word.solid _ (List.getLast_mem _)⟩
    exact (List.dropLast_append_getLast _).symm
  | @next word _ _ gap _ _ _ _ ih =>
    obtain ⟨front, c, rfl, solid⟩ := ih
    exact ⟨word.chars ++ (gap ++ front), c, by simp only [List.append_assoc], solid⟩

private theorem splitBlanks_solid_append {word : List Char} (solid : ∀ c ∈ word, isBlank c = false) (rest : List Char) :
    splitBlanks (word ++ rest) = (splitBlanks rest).modifyHead (word ++ ·) := by
  induction word with
  | nil => exact (congrFun List.modifyHead_id _).symm
  | cons c word ih =>
    obtain ⟨here, solid⟩ := List.forall_mem_cons.mp solid
    rw [List.cons_append, splitBlanks, if_neg (by simp [here]), ih solid, List.modifyHead_modifyHead]
    rfl

private theorem splitBlanks_blanks_append {gap : List Char} {c : Char} {more : List Char} (wide : gap ≠ [])
    (blank : ∀ c ∈ gap, isBlank c = true) (solid : isBlank c = false) :
    splitBlanks (gap ++ c :: more) = [] :: splitBlanks (c :: more) := by
  induction gap with
  | nil => contradiction
  | cons d gap ih =>
    obtain ⟨here, blank⟩ := List.forall_mem_cons.mp blank
    rw [List.cons_append, splitBlanks, if_pos here]
    cases gap with
    | nil => simp [solid]
    | cons e gap =>
      have next : isBlank e = true := blank e List.mem_cons_self
      simpa [next] using ih (List.cons_ne_nil _ _) blank

theorem Spaced.splitBlanks (spaced : Spaced words text) : splitBlanks text = words.map (·.chars) := by
  induction spaced with
  | last word =>
    have alone := splitBlanks_solid_append word.solid []
    rw [List.append_nil] at alone
    simp [alone, Text.splitBlanks]
  | next word wide blank spaced ih =>
    obtain ⟨c, more, rfl, solid⟩ := spaced.begins
    rw [splitBlanks_solid_append word.solid, splitBlanks_blanks_append wide blank solid, ih]
    simp

private theorem trim_of_blanks (blank : ∀ c ∈ text, isBlank c = true) : trim text = [] := by
  have nothing : trimLeft text = [] := List.dropWhile_eq_nil_iff.mpr blank
  rw [trim, nothing]
  rfl

theorem Spaced.trim {before after : List Char} (blankBefore : ∀ c ∈ before, isBlank c = true)
    (spaced : Spaced words text) (blankAfter : ∀ c ∈ after, isBlank c = true) :
    trim (before ++ (text ++ after)) = text := by
  obtain ⟨c, more, begins, first⟩ := spaced.begins
  obtain ⟨front, d, ends, last⟩ := spaced.ends
  have left : trimLeft (before ++ (text ++ after)) = text ++ after := by
    rw [trimLeft, List.dropWhile_append_of_pos blankBefore, begins, List.cons_append,
      List.dropWhile_cons_of_neg (by simp [first])]
  have right : trimLeft (text ++ after).reverse = text.reverse := by
    rw [trimLeft, List.reverse_append, List.dropWhile_append_of_pos (by simpa using blankAfter), ends, List.reverse_concat,
      List.dropWhile_cons_of_neg (by simp [last])]
  rw [Text.trim, left, right, List.reverse_reverse]

private theorem Spaced.exists_cons (spaced : Spaced words text) : ∃ first others, words = first :: others := by
  cases spaced with
  | last word => exact ⟨_, _, rfl⟩
  | next word _ _ _ => exact ⟨_, _, rfl⟩

private theorem Spaced.extend {c : Char} (spaced : Spaced words text) (solid : isBlank c = false) :
    ∃ longer, Spaced longer (c :: text) := by
  cases spaced with
  | last word => exact ⟨_, .last ⟨c :: word.chars, by simp, List.forall_mem_cons.mpr ⟨solid, word.solid⟩⟩⟩
  | next word wide blank spaced =>
    exact ⟨_, .next ⟨c :: word.chars, by simp, List.forall_mem_cons.mpr ⟨solid, word.solid⟩⟩ wide blank spaced⟩

theorem Spaced.listed {after : List Char} (spaced : Spaced words text) (blank : ∀ c ∈ after, isBlank c = true) :
    Listed words (text ++ after) :=
  @Listed.spaced words [] text after (by simp) spaced blank

/-- Every value lists words in one way or another. -/
theorem exists_listed (text : List Char) : ∃ words, Listed words text := by
  induction text with
  | nil => exact ⟨[], .nothing (by simp)⟩
  | cons c text ih =>
    obtain ⟨words, listed⟩ := ih
    cases blank : isBlank c with
    | true =>
      cases listed with
      | nothing blanks => exact ⟨[], .nothing (List.forall_mem_cons.mpr ⟨blank, blanks⟩)⟩
      | spaced before spaced after => exact ⟨words, .spaced (List.forall_mem_cons.mpr ⟨blank, before⟩) spaced after⟩
    | false =>
      cases listed with
      | nothing blanks => exact ⟨_, (Spaced.last ⟨[c], by simp, by simp [blank]⟩).listed blanks⟩
      | @spaced words before spaced after blankBefore laid blankAfter =>
        by_cases apart : before = []
        · subst apart
          obtain ⟨longer, laid⟩ := laid.extend blank
          exact ⟨longer, laid.listed blankAfter⟩
        · obtain ⟨first, others, rfl⟩ := laid.exists_cons
          have joined := (Spaced.next ⟨[c], by simp, by simp [blank]⟩ apart blankBefore laid).listed blankAfter
          exact ⟨_, by simpa only [List.cons_append, List.nil_append, List.append_assoc] using joined⟩

/-- Trimmed and cut at its blanks, a value gives the words that it lists; without any it gives one empty piece. -/
theorem Listed.splitBlanks (listed : Listed words text) :
    splitBlanks (trim text) = if words = [] then [[]] else words.map (·.chars) := by
  cases listed with
  | nothing blanks =>
    rw [trim_of_blanks blanks]
    rfl
  | spaced before spaced after =>
    obtain ⟨first, others, rfl⟩ := spaced.exists_cons
    rw [spaced.trim before after, spaced.splitBlanks, if_neg (List.cons_ne_nil _ _)]

end Layout

/-- The positions of a list whose word stands at an earlier position too. -/
def repeats (words : List String) : List (Fin words.length) :=
  (List.finRange words.length).filter fun i => words.get i ∈ words.take i

/-- What is to be said of a word that has stood in the list before. -/
def duplicate (index? : Option Int) (word : String) : Issue where
  rule := "class-no-dup"
  severity := .error
  message := "Duplicate class \"" ++ word ++ "\""
  index?
  data := [("class", .text word)]

/-- The words of a list that stand in it before or are among those seen. -/
def again (seen words : List String) : List String :=
  ((List.finRange words.length).filter fun (i : Fin words.length) => words.get i ∈ seen ++ words.take i).map words.get

section Repeats

variable {seen words : List String}

private theorem again_congr {others : List String} (same : ∀ word, word ∈ seen ↔ word ∈ others) :
    again seen words = again others words := by
  simp only [again, List.mem_append, same]

private theorem again_cons (seen : List String) (word : String) (rest : List String) :
    again seen (word :: rest) = if word ∈ seen then word :: again (word :: seen) rest else again (word :: seen) rest := by
  have positions : List.finRange (word :: rest).length = 0 :: (List.finRange rest.length).map Fin.succ :=
    List.finRange_succ
  -- a later position looks back on the first word too
  have later : (((List.finRange rest.length).map Fin.succ).filter fun (i : Fin (word :: rest).length) =>
      (word :: rest).get i ∈ seen ++ (word :: rest).take i).map (word :: rest).get = again (word :: seen) rest := by
    rw [again, List.filter_map, List.map_map]
    congr 1
    apply List.filter_congr
    intro i _
    simp only [Function.comp_apply, Fin.val_succ, List.take_succ_cons, List.mem_append, List.mem_cons, or_assoc,
      or_left_comm]
    rfl
  rw [again, positions, List.filter_cons]
  by_cases known : word ∈ seen
  · rw [if_pos (by simpa using known), if_pos known, List.map_cons, later]
    rfl
  · rw [if_neg (by simpa using known), if_neg known, later]

theorem repeatedWords_eq_again (named : "" ∉ words) : Rule.repeatedWords seen words = again seen words := by
  induction words generalizing seen with
  | nil => rfl
  | cons word rest ih =>
    obtain ⟨solid, named⟩ := not_or.mp (mt List.mem_cons.mpr named)
    rw [Rule.repeatedWords, if_neg (by simpa using Ne.symm solid), again_cons, ih named, ih named]
    by_cases known : word ∈ seen
    · have same : ∀ other, other ∈ seen ↔ other ∈ word :: seen := by
        intro other
        rw [List.mem_cons]
        exact ⟨.inr, fun either => either.elim (fun same => same ▸ known) id⟩
      rw [if_pos (by simpa using known), if_pos known, again_congr same]
    · rw [if_neg (by simpa using known), if_neg known]

theorem length_repeatedWords (named : "" ∉ words) :
    (Rule.repeatedWords seen words).length + (words.toFinset \ seen.toFinset).card = words.length := by
  induction words generalizing seen with
  | nil => simp [Rule.repeatedWords]
  | cons word rest ih =>
    obtain ⟨solid, named⟩ := not_or.mp (mt List.mem_cons.mpr named)
    rw [Rule.repeatedWords, if_neg (by simpa using Ne.symm solid), List.toFinset_cons, List.length_cons]
    by_cases known : word ∈ seen
    · rw [if_pos (by simpa using known), Finset.insert_sdiff_of_mem _ (List.mem_toFinset.mpr known), List.length_cons]
      have := @ih seen named
      omega
    · have fresh : word ∉ rest.toFinset \ (word :: seen).toFinset := by simp
      have more : insert word rest.toFinset \ seen.toFinset = insert word (rest.toFinset \ (word :: seen).toFinset) := by
        ext other
        by_cases same : other = word <;> simp [same, known]
      have := @ih (word :: seen) named
      rw [if_neg (by simpa using known), more, Finset.card_insert_of_notMem fresh]
      omega

end Repeats

/-- What the rule finds in a list of classes. -/
structure Found (classes : List String) (index? : Option Int) (issues : List Issue) : Prop where
  each : issues = (repeats classes).map fun i => duplicate index? (classes.get i)
  count : issues.length + classes.toFinset.card = classes.length
  silent : issues = [] ↔ classes.Nodup

/-- The class names of words, as a node gives them. -/
def classNames (words : List Word) : List String :=
  if words = [] then [""] else words.map Word.text

private theorem named_of_words (words : List Word) : "" ∉ words.map Word.text := by
  intro member
  obtain ⟨word, -, empty⟩ := List.mem_map.mp member
  exact word.nonempty (String.ofList_eq_empty_iff.mp empty)

theorem classes_of_listed {node : Node} {words : List Word}
    (listed : Listed words (node.attributeValue "class").toList) : node.classes = classNames words := by
  rw [Node.classes, listed.splitBlanks, classNames]
  split
  · rfl
  · rw [List.map_map]
    rfl

private theorem found_of_classNames (words : List Word) (index? : Option Int) :
    Found (words.map Word.text) index? ((Rule.repeatedWords [] (classNames words)).map (duplicate index?)) := by
  have named := named_of_words words
  have same : Rule.repeatedWords [] (classNames words) = Rule.repeatedWords [] (words.map Word.text) := by
    rw [classNames]
    split
    next empty => simp [empty, Rule.repeatedWords]
    next => rfl
  have every : (words.map Word.text).filter (· ≠ "") = words.map Word.text :=
    List.filter_eq_self.mpr fun word member => by simpa using fun empty : word = "" => named (empty ▸ member)
  rw [same]
  constructor
  case each =>
    rw [repeatedWords_eq_again named, again, List.map_map]
    rfl
  case count =>
    rw [List.length_map]
    simpa using @length_repeatedWords [] _ named
  case silent =>
    rw [List.map_eq_nil_iff, repeatedWords_eq_nil_iff, every]
    simp

/-- The classes of a node are the words that its attribute lists, and the rule reports each that is not its first one of
that name. -/
theorem repeated_classes_are_reported (options : Datum) (below : List (Tree Node)) (node : Node) :
    (node.attributes.get? "class" = none → node.classes = [""]) ∧
      ∀ attr, node.attributes.get? "class" = some attr →
        (∃ words, Listed words (attr.value?.getD "").toList) ∧
        ∀ words, Listed words (attr.value?.getD "").toList →
          node.classes = classNames words ∧
          ∃ issues, (Rule.classNoDup.onNode options below node).result = .ok issues ∧
            Found (words.map Word.text) attr.valueIndex? issues := by
  constructor
  · intro absent
    have blank : node.attributeValue "class" = "" := by simp [Node.attributeValue, absent]
    have nothing : Listed [] (node.attributeValue "class").toList := .nothing (by simp [blank])
    exact classes_of_listed nothing
  · intro attr found
    have value : node.attributeValue "class" = attr.value?.getD "" := by simp [Node.attributeValue, found]
    refine ⟨exists_listed _, fun words listed => ?_⟩
    have classes := classes_of_listed (value ▸ listed)
    refine ⟨classes, _, ?_, found_of_classNames words attr.valueIndex?⟩
    simp only [Rule.onNode, Rule.classNoDup, found, classes]
    rfl

def letter (c : Char) (solid : isBlank c = false) : Word :=
  ⟨[c], List.cons_ne_nil _ _, by simpa using solid⟩

def tabbed : Attribute where
  name := "class"
  value? := some " a  b\ta a"
  valueIndex? := some 9

theorem tabbed_classes_are_reported :
    let node : Node := { attributes := .ofList [("class", tabbed)] }
    let words := [letter 'a' rfl, letter 'b' rfl, letter 'a' rfl, letter 'a' rfl]
    node.attributes.get? "class" = some tabbed ∧ Listed words " a  b\ta a".toList ∧ node.classes = ["a", "b", "a", "a"] ∧
      ∃ issues, (Rule.classNoDup.onNode .null [] node).result = .ok issues ∧
        Found ["a", "b", "a", "a"] (some 9) issues ∧ issues.length = 2 := by
  intro node words
  have found : node.attributes.get? "class" = some tabbed := by decide +kernel
  have spaced : Spaced words (['a'] ++ ([' ', ' '] ++ (['b'] ++ (['\t'] ++ (['a'] ++ ([' '] ++ ['a'])))))) :=
    .next _ (by simp) (by simp [isBlank]) (.next _ (by simp) (by simp [isBlank])
      (.next _ (by simp) (by simp [isBlank]) (.last _)))
  have listed : Listed words " a  b\ta a".toList := @Listed.spaced words [' '] _ [] (by simp [isBlank]) spaced (by simp)
  obtain ⟨classes, issues, result, judged⟩ := ((repeated_classes_are_reported .null [] node).2 tabbed found).2 words listed
  have judged : Found ["a", "b", "a", "a"] (some 9) issues := judged
  refine ⟨found, listed, classes, issues, result, judged, ?_⟩
  have distinct : ["a", "b", "a", "a"].toFinset.card = 2 := by decide
  have counted := judged.count
  rw [distinct] at counted
  exact Nat.add_right_cancel counted

end TagLint.Proofs.ClassLists
