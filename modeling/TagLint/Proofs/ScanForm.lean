import TagLint.Occurrence.Scan

/-! The occurrences of a text in closed form. Each is determined by the runs of characters around it, and the scanner
finds exactly the leftmost sequence of them. Where the text itself stands only moves the offsets. -/

namespace TagLint.Proofs.ScanForm
open Text Occurrence

/-- Where the longest run of characters of a class ends that begins at a place. -/
def runEnd (p : Char → Bool) (text : List Char) (start : Nat) : Nat :=
  start + ((text.drop start).takeWhile p).length

def part (text : List Char) (start stop : Nat) : List Char :=
  (text.drop start).take (stop - start)

/-- Where the name of an occurrence that begins at `start` stands, in a text where one begins there. -/
inductive NameSpan (text : List Char) (start : Nat) : Nat → Nat → Prop
  /-- After the blanks the longest run of characters of a name, if there is one. -/
  | word {c : Char} : text[runEnd isBlank text start]? = some c → isNameChar c = true →
      NameSpan text start (runEnd isBlank text start) (runEnd isNameChar text (runEnd isBlank text start))
  /-- Otherwise the last of the blanks that is not U+0020. -/
  | blank (place : Nat) : (∀ c, text[runEnd isBlank text start]? = some c → isNameChar c = false) →
      start ≤ place → place < runEnd isBlank text start → text[place]? ≠ some ' ' →
      (∀ later, place < later → later < runEnd isBlank text start → text[later]? = some ' ') →
      NameSpan text start place (place + 1)

/-- An equals sign follows the name that ends at `stop`, and a value that begins at `value` follows the sign. -/
structure ValueFollows (text : List Char) (stop value : Nat) : Prop where
  sign : text[runEnd isBlank text stop]? = some '='
  begins : value = runEnd isBlank text (runEnd isBlank text stop + 1)
  inside : value < text.length

/-- A quote stands at `start`, and the next one of its kind at `closing`. -/
structure Quoted (text : List Char) (start closing : Nat) (quote : Char) : Prop where
  kind : quote = '"' ∨ quote = '\''
  opened : text[start]? = some quote
  after : start < closing
  closed : text[closing]? = some quote
  next : ∀ between, start < between → between < closing → text[between]? ≠ some quote

/-- Where the value that begins at `start` ends: after the closing quote, or before the next blank. -/
inductive ValueSpan (text : List Char) (start : Nat) : Nat → Prop
  | quoted {closing quote} : Quoted text start closing quote → ValueSpan text start (closing + 1)
  | bare : (∀ closing quote, ¬ Quoted text start closing quote) → ValueSpan text start (runEnd (!isBlank ·) text start)

inductive Assigned (text : List Char) (stop : Nat) : Option Assignment → Prop
  | given {value ending} : ValueFollows text stop value → ValueSpan text value ending →
      Assigned text stop (some ⟨part text stop value, part text value ending⟩)
  | absent : (∀ value, ¬ ValueFollows text stop value) → Assigned text stop none

/-- An occurrence as it has to be where it begins. -/
inductive Written (text : List Char) : Occurrence → Prop
  | mk {start name stop assignment} : NameSpan text start name stop → Assigned text stop assignment →
      Written text ⟨start, part text start name, part text name stop, assignment⟩

/-- The occurrences from a place on: each at the first place after the one before it where one can begin. -/
inductive Leftmost (text : List Char) : Nat → List Occurrence → Prop
  | done {place} : (∀ start name stop, place ≤ start → ¬ NameSpan text start name stop) → Leftmost text place []
  | next {place occ occs} : (∀ start name stop, place ≤ start → start < occ.start → ¬ NameSpan text start name stop) →
      place ≤ occ.start → Written text occ → Leftmost text occ.stop occs → Leftmost text place (occ :: occs)

private theorem drop_runEnd (p : Char → Bool) (text : List Char) (start : Nat) :
    text.drop (runEnd p text start) = (text.drop start).dropWhile p := by
  have cut : ((text.drop start).takeWhile p ++ (text.drop start).dropWhile p).drop
      ((text.drop start).takeWhile p).length = (text.drop start).dropWhile p := List.drop_left
  rwa [List.takeWhile_append_dropWhile, List.drop_drop] at cut

theorem part_runEnd (p : Char → Bool) (text : List Char) (start : Nat) :
    part text start (runEnd p text start) = (text.drop start).takeWhile p := by
  have cut : ((text.drop start).takeWhile p ++ (text.drop start).dropWhile p).take
      ((text.drop start).takeWhile p).length = (text.drop start).takeWhile p := List.take_left
  rw [part, runEnd, Nat.add_sub_cancel_left]
  rwa [List.takeWhile_append_dropWhile] at cut

theorem getElem?_part (text : List Char) (start stop index : Nat) (inside : index < stop - start) :
    (part text start stop)[index]? = text[start + index]? := by
  rw [part, List.getElem?_take_of_lt inside, List.getElem?_drop]

theorem part_append_drop (text : List Char) {start stop : Nat} (ordered : start ≤ stop) :
    part text start stop ++ text.drop stop = text.drop start := by
  have := List.take_append_drop (stop - start) (text.drop start)
  rwa [List.drop_drop, Nat.add_sub_cancel' ordered] at this

theorem part_append_part (text : List Char) {start middle stop : Nat} (first : start ≤ middle)
    (second : middle ≤ stop) : part text start middle ++ part text middle stop = part text start stop := by
  simp only [part]
  rw [show stop - start = (middle - start) + (stop - middle) by omega, List.take_add, List.drop_drop,
    Nat.add_sub_cancel' first]

theorem part_succ {text : List Char} {place : Nat} {c : Char} (found : text[place]? = some c) :
    part text place (place + 1) = [c] := by
  obtain ⟨inside, rfl⟩ := List.getElem?_eq_some_iff.mp found
  rw [part, List.drop_eq_getElem_cons inside, Nat.add_sub_cancel_left]
  rfl

theorem runEnd_holds {p : Char → Bool} {text : List Char} {start place : Nat} (after : start ≤ place)
    (before : place < runEnd p text start) : ∃ c, text[place]? = some c ∧ p c = true := by
  have inside : place - start < ((text.drop start).takeWhile p).length := by
    simp only [runEnd] at before
    omega
  have found : text[place]? = some ((text.drop start).takeWhile p)[place - start] := by
    rw [← List.getElem?_eq_getElem inside, ← part_runEnd, getElem?_part, Nat.add_sub_cancel' after]
    omega
  exact ⟨_, found, List.all_eq_true.mp List.all_takeWhile _ (List.getElem_mem _)⟩

theorem runEnd_stops {p : Char → Bool} {text : List Char} {start : Nat} {c : Char}
    (found : text[runEnd p text start]? = some c) : p c = false := by
  have first := List.head?_dropWhile_not p (text.drop start)
  rw [← drop_runEnd, List.head?_drop, found] at first
  simpa using first

theorem le_runEnd (p : Char → Bool) (text : List Char) (start : Nat) : start ≤ runEnd p text start :=
  Nat.le_add_right _ _

theorem lt_runEnd {p : Char → Bool} {text : List Char} {start : Nat} {c : Char} (found : text[start]? = some c)
    (member : p c = true) : start < runEnd p text start := by
  apply Nat.lt_of_le_of_ne (le_runEnd p text start)
  intro same
  rw [same] at found
  rw [runEnd_stops found] at member
  contradiction

theorem runEnd_le (p : Char → Bool) {text : List Char} {start : Nat} (inside : start ≤ text.length) :
    runEnd p text start ≤ text.length := by
  have short := (List.takeWhile_prefix p (l := text.drop start)).length_le
  rw [List.length_drop] at short
  rw [runEnd]
  omega

private theorem runEnd_unique {p : Char → Bool} {text : List Char} {start stop : Nat} (ordered : start ≤ stop)
    (holds : ∀ place, start ≤ place → place < stop → ∃ c, text[place]? = some c ∧ p c = true)
    (stops : ∀ c, text[stop]? = some c → p c = false) : runEnd p text start = stop := by
  rcases Nat.lt_trichotomy (runEnd p text start) stop with short | same | long
  · obtain ⟨c, found, member⟩ := holds _ (le_runEnd p text start) short
    rw [runEnd_stops found] at member
    contradiction
  · exact same
  · obtain ⟨c, found, member⟩ := runEnd_holds ordered long
    rw [stops c found] at member
    contradiction

/-- Of the blanks only U+0020 cannot stand in a name. -/
theorem isNameChar_of_isBlank {c : Char} (blank : isBlank c = true) : isNameChar c = true ↔ c ≠ ' ' := by
  constructor
  · rintro name rfl
    simp [isNameChar] at name
  · intro other
    simp only [isNameChar, Bool.not_eq_true', Bool.or_eq_false_iff, beq_eq_false_iff_ne]
    refine ⟨⟨⟨⟨⟨⟨other, ?_⟩, ?_⟩, ?_⟩, ?_⟩, ?_⟩, ?_⟩ <;>
      · rintro rfl
        simp [isBlank] at blank

theorem NameSpan.bounds {text : List Char} {start name stop : Nat} (span : NameSpan text start name stop) :
    start ≤ name ∧ name < stop ∧ stop ≤ text.length := by
  cases span with
  | word found member =>
    exact ⟨le_runEnd isBlank text start, lt_runEnd found member,
      runEnd_le _ (Nat.le_of_lt (List.getElem?_eq_some_iff.mp found).1)⟩
  | blank _ ends after before other spaces =>
    obtain ⟨c, found, blank⟩ := runEnd_holds after before
    exact ⟨after, Nat.lt_succ_self _, (List.getElem?_eq_some_iff.mp found).1⟩

private theorem takeWhile_of_ends {text : List Char} {start : Nat}
    (ends : ∀ c, text[runEnd isBlank text start]? = some c → isNameChar c = false) :
    ((text.drop start).dropWhile isBlank).takeWhile isNameChar = [] := by
  rw [← drop_runEnd, ← part_runEnd, runEnd_unique (Nat.le_refl _) (by omega) ends]
  simp [part]

theorem NameSpan.found {text : List Char} {start name stop : Nat} (span : NameSpan text start name stop) :
    nameAt? (text.drop start) = some (part text start name, part text name stop, text.drop stop) := by
  cases span with
  | word begins member =>
    rw [part_runEnd, part_runEnd, drop_runEnd, drop_runEnd, drop_runEnd]
    rw [← List.head?_drop, drop_runEnd] at begins
    simp only [nameAt?]
    split
    next empty =>
      cases rest : (text.drop start).dropWhile isBlank <;> simp_all
    next => rfl
  | blank _ ends after before other spaces =>
    obtain ⟨c, found, blank⟩ := runEnd_holds after before
    have usable : isNameChar c = true := (isNameChar_of_isBlank blank).mpr fun same => other (same ▸ found)
    have blanks : (text.drop start).takeWhile isBlank =
        part text start name ++ c :: part text (name + 1) (runEnd isBlank text start) := by
      rw [← part_runEnd, ← part_append_part text after (Nat.le_of_lt before),
        ← part_append_part text (Nat.le_succ name) before, part_succ found]
      rfl
    have nameless : ∀ d ∈ part text (name + 1) (runEnd isBlank text start), isNameChar d = false := by
      intro d member
      obtain ⟨index, inside, rfl⟩ := List.mem_iff_getElem.mp member
      have bound : index < runEnd isBlank text start - (name + 1) := by
        simp only [part, List.length_take] at inside
        omega
      have space := spaces (name + 1 + index) (by omega) (by omega)
      rw [← getElem?_part text _ _ _ bound, List.getElem?_eq_getElem inside] at space
      rw [Option.some.inj space]
      decide
    have empty := takeWhile_of_ends ends
    simp only [nameAt?, empty, blanks, splitLast?_append _ usable nameless, Option.map_some]
    rw [part_succ found, ← drop_runEnd, part_append_drop text before]

theorem NameSpan.exists_of_found {text : List Char} {start : Nat} {found : List Char × List Char × List Char}
    (here : nameAt? (text.drop start) = some found) : ∃ name stop, NameSpan text start name stop := by
  by_cases begins : ∃ c, text[runEnd isBlank text start]? = some c ∧ isNameChar c = true
  · obtain ⟨c, begins, member⟩ := begins
    exact ⟨_, _, .word begins member⟩
  · have ends : ∀ c, text[runEnd isBlank text start]? = some c → isNameChar c = false := by
      intro c found
      exact Bool.eq_false_iff.mpr fun member => begins ⟨c, found, member⟩
    have empty := takeWhile_of_ends ends
    simp only [nameAt?, empty, Option.map_eq_some_iff, Prod.exists] at here
    obtain ⟨lead, c, after, cut, -⟩ := here
    obtain ⟨blanks, usable, nameless⟩ := eq_of_splitLast? cut
    have count := congrArg List.length blanks
    simp only [List.length_append, List.length_cons] at count
    have at_place (index : Nat) (inside : index < lead.length + (after.length + 1)) :
        text[start + index]? = (lead ++ c :: after)[index]? := by
      rw [← blanks, ← part_runEnd, getElem?_part]
      simp only [runEnd]
      omega
    have blank : isBlank c = true := by
      apply List.all_eq_true.mp (List.all_takeWhile (p := isBlank) (l := text.drop start))
      simp [blanks]
    refine ⟨start + lead.length, _, .blank _ ends (Nat.le_add_right _ _) (by simp only [runEnd]; omega) ?_ ?_⟩
    · rw [at_place _ (by omega)]
      simpa using (isNameChar_of_isBlank blank).mp usable
    · intro later beyond before
      simp only [runEnd] at before
      obtain ⟨index, rfl⟩ := Nat.exists_eq_add_of_lt beyond
      rw [Nat.add_assoc, Nat.add_assoc, at_place _ (by omega), List.getElem?_append_right (by omega),
        Nat.add_sub_cancel_left, List.getElem?_cons_succ, List.getElem?_eq_getElem (by omega)]
      have member := List.getElem_mem (l := after) (n := index) (by omega)
      have space := mt (isNameChar_of_isBlank (c := after[index]) ?_).mpr
      · simpa [nameless _ member] using space
      · apply List.all_eq_true.mp (List.all_takeWhile (p := isBlank) (l := text.drop start))
        simp [blanks]

private theorem Quoted.closing_eq {text : List Char} {start closing : Nat} {quote : Char}
    (quoted : Quoted text start closing quote) : runEnd (· != quote) text (start + 1) = closing := by
  apply runEnd_unique quoted.after
  · intro place beyond before
    have inside : closing < text.length := (List.getElem?_eq_some_iff.mp quoted.closed).1
    refine ⟨_, List.getElem?_eq_getElem (by omega), ?_⟩
    have different := quoted.next place beyond before
    rw [List.getElem?_eq_getElem (by omega)] at different
    simpa using different
  · intro c found
    rw [quoted.closed] at found
    simp [Option.some.inj found]

theorem Quoted.part_eq {text : List Char} {start closing : Nat} {quote : Char}
    (quoted : Quoted text start closing quote) :
    part text start (closing + 1) = quote :: part text (start + 1) closing ++ [quote] := by
  rw [← part_append_part text (Nat.le_succ start) (Nat.le_succ_of_le quoted.after), part_succ quoted.opened,
    ← part_append_part text quoted.after (Nat.le_succ closing), part_succ quoted.closed]
  rfl

theorem Quoted.free {text : List Char} {start closing : Nat} {quote : Char} (quoted : Quoted text start closing quote) :
    quote ∉ part text (start + 1) closing := by
  rw [← quoted.closing_eq, part_runEnd]
  intro member
  have other := List.all_eq_true.mp List.all_takeWhile quote member
  simp at other

theorem Quoted.found {text more : List Char} {start closing : Nat} {quote first : Char}
    (quoted : Quoted text start closing quote) (begun : text.drop start = first :: more) :
    first = quote ∧ quotedRaw? quote more = some (part text start (closing + 1), text.drop (closing + 1)) := by
  have opened := quoted.opened
  rw [← List.head?_drop, begun] at opened
  have tail : text.drop (start + 1) = more := by
    rw [← List.drop_drop, begun]
    rfl
  have closed : text.drop closing = quote :: text.drop (closing + 1) := by
    obtain ⟨inside, same⟩ := List.getElem?_eq_some_iff.mp quoted.closed
    rw [List.drop_eq_getElem_cons inside, same]
  have inner : more.takeWhile (· != quote) = part text (start + 1) closing := by
    rw [← tail, ← part_runEnd, quoted.closing_eq]
  refine ⟨Option.some.inj opened, ?_⟩
  rw [quotedRaw?, ← tail, ← drop_runEnd, quoted.closing_eq, closed, tail, inner, quoted.part_eq]

theorem Quoted.exists_of_found {text more : List Char} {start : Nat} {quote : Char} {found : List Char × List Char}
    (kind : quote = '"' ∨ quote = '\'') (begun : text.drop start = quote :: more)
    (here : quotedRaw? quote more = some found) : ∃ closing, Quoted text start closing quote := by
  have tail : text.drop (start + 1) = more := by
    rw [← List.drop_drop, begun]
    rfl
  rw [quotedRaw?, ← tail, ← drop_runEnd] at here
  cases rest : text.drop (runEnd (· != quote) text (start + 1)) with
  | nil => simp [rest] at here
  | cons c after =>
    have found : text[runEnd (· != quote) text (start + 1)]? = some c := by rw [← List.head?_drop, rest]; rfl
    have same : c = quote := by simpa using runEnd_stops found
    subst same
    refine ⟨_, kind, by rw [← List.head?_drop, begun]; rfl, le_runEnd _ _ _, found, ?_⟩
    intro between beyond before
    obtain ⟨d, holds, different⟩ := runEnd_holds beyond before
    rw [holds]
    simpa using different

theorem ValueSpan.found {text more : List Char} {start stop : Nat} {first : Char} (span : ValueSpan text start stop)
    (begun : text.drop start = first :: more) : rawAt first more = (part text start stop, text.drop stop) := by
  cases span with
  | @quoted closing quote quoted =>
    obtain ⟨rfl, found⟩ := quoted.found begun
    rcases quoted.kind with rfl | rfl <;> simp [rawAt, found]
  | bare never =>
    have bare : bareRaw (first :: more) =
        (part text start (runEnd (!isBlank ·) text start), text.drop (runEnd (!isBlank ·) text start)) := by
      rw [part_runEnd, drop_runEnd, begun]
      rfl
    simp only [rawAt]
    split
    next quote =>
      have kind : first = '"' ∨ first = '\'' := by simpa using quote
      cases found : quotedRaw? first more with
      | none => exact bare
      | some split =>
        obtain ⟨closing, quoted⟩ := Quoted.exists_of_found kind begun found
        exact absurd quoted (never closing first)
    next => exact bare

theorem ValueSpan.total (text : List Char) (start : Nat) : ∃ stop, ValueSpan text start stop := by
  by_cases quoted : ∃ closing quote, Quoted text start closing quote
  · obtain ⟨closing, quote, quoted⟩ := quoted
    exact ⟨_, .quoted quoted⟩
  · exact ⟨_, .bare fun closing quote here => quoted ⟨closing, quote, here⟩⟩

theorem ValueFollows.found {text : List Char} {stop value ending : Nat} (follows : ValueFollows text stop value)
    (span : ValueSpan text value ending) :
    assignmentAt? (text.drop stop) = some (⟨part text stop value, part text value ending⟩, text.drop ending) := by
  obtain ⟨sign, begins, inside⟩ := follows
  obtain ⟨within, same⟩ := List.getElem?_eq_some_iff.mp sign
  have rest : text.drop (runEnd isBlank text stop) = '=' :: text.drop (runEnd isBlank text stop + 1) := by
    rw [List.drop_eq_getElem_cons within, same]
  have link : part text stop value = (text.drop stop).takeWhile isBlank ++
      '=' :: (text.drop (runEnd isBlank text stop + 1)).takeWhile isBlank := by
    rw [← part_runEnd, ← part_runEnd, ← begins]
    have after : runEnd isBlank text stop + 1 ≤ value := begins ▸ le_runEnd ..
    rw [← part_append_part text (le_runEnd isBlank text stop) (Nat.le_of_lt after),
      ← part_append_part text (Nat.le_succ _) after, part_succ sign]
    rfl
  have begun : text.drop value = text[value] :: text.drop (value + 1) := List.drop_eq_getElem_cons inside
  simp only [assignmentAt?]
  rw [← drop_runEnd, rest]
  simp only
  rw [← drop_runEnd, ← begins, begun]
  simp only [span.found begun, link]

theorem ValueFollows.exists_of_found {text : List Char} {stop : Nat} {found : Assignment × List Char}
    (here : assignmentAt? (text.drop stop) = some found) : ∃ value, ValueFollows text stop value := by
  simp only [assignmentAt?] at here
  rw [← drop_runEnd] at here
  split at here
  next rest sign =>
    have after : text.drop (runEnd isBlank text stop + 1) = rest := by
      rw [← List.drop_drop, sign]
      rfl
    rw [← after, ← drop_runEnd] at here
    refine ⟨_, by rw [← List.head?_drop, sign]; rfl, rfl, ?_⟩
    apply Nat.lt_of_not_le
    intro past
    simp [List.drop_eq_nil_of_le past] at here
  next => contradiction

theorem Assigned.found {text : List Char} {stop : Nat} {assignment : Option Assignment}
    (assigned : Assigned text stop assignment) : (assignmentAt? (text.drop stop)).map Prod.fst = assignment := by
  cases assigned with
  | given follows span => simp [follows.found span]
  | absent never =>
    cases found : assignmentAt? (text.drop stop) with
    | none => rfl
    | some found' =>
      obtain ⟨value, follows⟩ := ValueFollows.exists_of_found found
      exact absurd follows (never value)

theorem Assigned.total (text : List Char) (stop : Nat) : ∃ assignment, Assigned text stop assignment := by
  by_cases follows : ∃ value, ValueFollows text stop value
  · obtain ⟨value, follows⟩ := follows
    obtain ⟨ending, span⟩ := ValueSpan.total text value
    exact ⟨_, .given follows span⟩
  · exact ⟨none, .absent fun value here => follows ⟨value, here⟩⟩

theorem ValueFollows.visible {text : List Char} {stop value : Nat} (follows : ValueFollows text stop value) :
    ∃ c, text[value]? = some c ∧ isBlank c = false := by
  obtain ⟨-, rfl, inside⟩ := follows
  have found := List.getElem?_eq_getElem inside
  exact ⟨_, found, runEnd_stops found⟩

theorem ValueSpan.lt {text : List Char} {start stop : Nat} {c : Char} (span : ValueSpan text start stop)
    (found : text[start]? = some c) (visible : isBlank c = false) : start < stop := by
  cases span with
  | quoted quoted => exact Nat.lt_succ_of_lt quoted.after
  | bare _ => exact lt_runEnd found (by simpa using visible)

theorem Assigned.raw_ne_nil {text : List Char} {stop : Nat} {assignment : Assignment}
    (assigned : Assigned text stop (some assignment)) : assignment.raw ≠ [] := by
  cases assigned with
  | @given value ending follows span =>
    obtain ⟨c, found, visible⟩ := follows.visible
    have inside : 0 < ending - value := Nat.sub_pos_of_lt (span.lt found visible)
    have first := getElem?_part text value ending 0 inside
    rw [Nat.add_zero, found] at first
    intro empty
    change part text value ending = [] at empty
    rw [empty] at first
    contradiction

theorem Written.raw_ne_nil {text : List Char} {occ : Occurrence} {assignment : Assignment} (written : Written text occ)
    (given : occ.assignment = some assignment) : assignment.raw ≠ [] := by
  cases written with
  | mk span assigned =>
    subst given
    exact assigned.raw_ne_nil

theorem start_of_found {text rest : List Char} {start : Nat} {occ : Occurrence}
    (found : at? start text = some (occ, rest)) : occ.start = start := by
  simp only [at?, Option.map_eq_some_iff, Prod.exists] at found
  obtain ⟨lead, name, after, -, found⟩ := found
  split at found <;> simp only [Prod.mk.injEq] at found <;> exact found.1 ▸ rfl

private theorem rest_eq_drop {text rest : List Char} {start : Nat} {occ : Occurrence}
    (found : at? start (text.drop start) = some (occ, rest)) : rest = text.drop occ.stop := by
  have covered := (at?_append found).1
  rw [Occurrence.stop, start_of_found found, ← List.drop_drop, covered, List.drop_left]

theorem Written.found {text : List Char} {occ : Occurrence} (written : Written text occ) :
    at? occ.start (text.drop occ.start) = some (occ, text.drop occ.stop) := by
  cases written with
  | @mk start name stop assignment span assigned =>
    have here : ∃ rest, at? start (text.drop start) =
        some (⟨start, part text start name, part text name stop, assignment⟩, rest) := by
      have read := assigned.found
      simp only [at?, span.found, Option.map_some, Option.some.injEq]
      split
      all_goals
        next found =>
          rw [found] at read
          obtain rfl := read
          exact ⟨_, rfl⟩
    obtain ⟨rest, here⟩ := here
    rw [here, rest_eq_drop here]

theorem NameSpan.written {text : List Char} {start name stop : Nat} (span : NameSpan text start name stop) :
    ∃ occ, occ.start = start ∧ Written text occ := by
  obtain ⟨assignment, assigned⟩ := Assigned.total text stop
  exact ⟨_, rfl, .mk span assigned⟩

theorem Written.of_found {text rest : List Char} {start : Nat} {occ : Occurrence}
    (found : at? start (text.drop start) = some (occ, rest)) : Written text occ ∧ occ.start = start := by
  obtain ⟨named, here, -⟩ := Option.map_eq_some_iff.mp (by simpa only [at?] using found)
  obtain ⟨name, stop, span⟩ := NameSpan.exists_of_found here
  obtain ⟨other, rfl, written⟩ := span.written
  have same := written.found.symm.trans found
  simp only [Option.some.injEq, Prod.mk.injEq] at same
  exact ⟨same.1 ▸ written, same.1 ▸ rfl⟩

theorem absent_of_at?_none {text : List Char} {start : Nat} (absent : at? start (text.drop start) = none)
    (name stop : Nat) : ¬ NameSpan text start name stop := by
  intro span
  obtain ⟨occ, rfl, written⟩ := span.written
  rw [written.found] at absent
  contradiction

theorem nextFrom?_leftmost {text rest : List Char} {offset : Nat} (stands : rest = text.drop offset) :
    match nextFrom? offset rest with
    | none => ∀ start name stop, offset ≤ start → ¬ NameSpan text start name stop
    | some (occ, cursor) =>
      (∀ start name stop, offset ≤ start → start < occ.start → ¬ NameSpan text start name stop) ∧
        offset ≤ occ.start ∧ Written text occ ∧ cursor = ⟨occ.stop, text.drop occ.stop⟩ := by
  fun_induction nextFrom? offset rest with
  | case1 offset =>
    intro start name stop beyond
    apply absent_of_at?_none
    rw [List.drop_eq_nil_of_le (Nat.le_trans (List.drop_eq_nil_iff.mp stands.symm) beyond)]
    simp [at?, nameAt?, splitLast?]
  | case2 offset c cs occ rest here =>
    rw [stands] at here
    obtain ⟨written, rfl⟩ := Written.of_found here
    refine ⟨?_, Nat.le_refl _, written, by rw [rest_eq_drop here]⟩
    intro start name stop beyond before
    omega
  | case3 offset c cs absent ih =>
    have here : ∀ name stop, ¬ NameSpan text offset name stop := absent_of_at?_none (stands ▸ absent)
    have later := ih (by rw [← List.drop_drop, ← stands]; rfl)
    cases next : nextFrom? (offset + 1) cs with
    | none =>
      rw [next] at later
      intro start name stop beyond span
      rcases Nat.eq_or_lt_of_le beyond with rfl | beyond
      · exact here name stop span
      · exact later start name stop beyond span
    | some found =>
      rw [next] at later
      obtain ⟨before, after, written, cursor⟩ := later
      refine ⟨?_, Nat.le_of_succ_le after, written, cursor⟩
      intro start name stop beyond less span
      rcases Nat.eq_or_lt_of_le beyond with rfl | beyond
      · exact here name stop span
      · exact before start name stop beyond less span

/-- A scan finds the occurrences from its place on as the closed form has them. -/
theorem leftmost_remaining {text : List Char} (cursor : Cursor) (stands : cursor.rest = text.drop cursor.offset) :
    Leftmost text cursor.offset cursor.remaining := by
  have first := nextFrom?_leftmost stands
  fun_induction Cursor.remaining cursor with
  | case1 cursor ended =>
    rw [Cursor.next?] at ended
    rw [ended] at first
    exact .done first
  | case2 cursor occ after found _ ih =>
    rw [Cursor.next?] at found
    rw [found] at first
    obtain ⟨before, beyond, written, rfl⟩ := first
    exact .next before beyond written (ih rfl (nextFrom?_leftmost rfl))

theorem Leftmost.written {text : List Char} {place : Nat} {occs : List Occurrence}
    (scanned : Leftmost text place occs) : ∀ occ ∈ occs, Written text occ := by
  induction scanned with
  | done _ => simp
  | next _ _ written _ ih => exact List.forall_mem_cons.mpr ⟨written, ih⟩

theorem written_of_mem_scan {text : List Char} {occ : Occurrence} (member : occ ∈ scan text) : Written text occ :=
  (leftmost_remaining (Cursor.ofText text) rfl).written occ member

theorem Written.begins {text : List Char} {occ : Occurrence} (written : Written text occ) :
    ∃ name stop, NameSpan text occ.start name stop := by
  cases written with
  | mk span _ => exact ⟨_, _, span⟩

theorem Written.unique {text : List Char} {occ other : Occurrence} (written : Written text occ)
    (rival : Written text other) (same : occ.start = other.start) : occ = other := by
  have found := written.found
  rw [same, rival.found] at found
  simp only [Option.some.injEq, Prod.mk.injEq] at found
  exact found.1.symm

theorem Leftmost.unique {text : List Char} {place : Nat} {occs others : List Occurrence}
    (first : Leftmost text place occs) (second : Leftmost text place others) : occs = others := by
  induction first generalizing others with
  | done never =>
    cases second with
    | done _ => rfl
    | next _ after written _ =>
      obtain ⟨name, stop, span⟩ := written.begins
      exact absurd span (never _ _ _ after)
  | next before after written _ ih =>
    obtain ⟨name, stop, span⟩ := written.begins
    cases second with
    | done never => exact absurd span (never _ _ _ after)
    | next rivalBefore rivalAfter rival rest =>
      obtain ⟨rivalName, rivalStop, rivalSpan⟩ := rival.begins
      rcases Nat.lt_trichotomy _ _ with earlier | same | later
      · exact absurd span (rivalBefore _ _ _ after earlier)
      · obtain rfl := written.unique rival same
        rw [ih rest]
      · exact absurd rivalSpan (before _ _ _ rivalAfter later)

def moved (distance : Nat) (occ : Occurrence) : Occurrence :=
  { occ with start := distance + occ.start }

theorem valueStart?_moved (distance : Nat) (occ : Occurrence) :
    (moved distance occ).valueStart? = occ.valueStart?.map (distance + ·) := by
  cases assigned : occ.assignment with
  | none => simp [Occurrence.valueStart?, moved, assigned]
  | some assignment =>
    simp only [Occurrence.valueStart?, Occurrence.nameStart, moved, assigned, Option.map_some]
    congr 1
    omega

private theorem at?_moved (distance start : Nat) (text : List Char) :
    at? (distance + start) text = (at? start text).map (Prod.map (moved distance) id) := by
  simp only [at?, Option.map_map]
  congr 1
  funext found
  obtain ⟨lead, name, rest⟩ := found
  simp only [Function.comp]
  split <;> rfl

private theorem stop_moved (distance : Nat) (occ : Occurrence) :
    (moved distance occ).stop = distance + occ.stop := by
  simp only [Occurrence.stop, moved, Occurrence.text, Occurrence.written?]
  omega

private theorem nextFrom?_moved (distance offset : Nat) (text : List Char) :
    nextFrom? (distance + offset) text =
      (nextFrom? offset text).map fun (occ, cursor) => (moved distance occ, ⟨distance + cursor.offset, cursor.rest⟩) := by
  fun_induction nextFrom? offset text with
  | case1 => rfl
  | case2 offset c cs occ rest here =>
    simp [nextFrom?, at?_moved, here, stop_moved]
  | case3 offset c cs absent ih =>
    simp [nextFrom?, at?_moved, absent, ← ih, Nat.add_assoc]

/-- Where a text stands decides where its occurrences stand, and nothing else. -/
theorem remaining_moved (distance : Nat) (cursor : Cursor) :
    (Cursor.mk (distance + cursor.offset) cursor.rest).remaining = cursor.remaining.map (moved distance) := by
  fun_induction Cursor.remaining cursor with
  | case1 cursor ended =>
    rw [Cursor.remaining_eq]
    simp only [Cursor.next?] at ended
    simp [Cursor.next?, nextFrom?_moved, ended]
  | case2 cursor occ after found _ ih =>
    rw [Cursor.remaining_eq]
    simp only [Cursor.next?] at found
    simp [Cursor.next?, nextFrom?_moved, found, ih]

end TagLint.Proofs.ScanForm
