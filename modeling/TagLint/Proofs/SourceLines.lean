import TagLint.SourceMap

/-! Lines and columns without the table. An offset lies as many lines down as there are newlines before it, and as many
columns in as it lies after the last of them. -/

namespace TagLint.Proofs.SourceLines

/-- The line of a place begins at `start`: at the start of the text or just after a newline, and no newline lies between
it and the place. -/
structure LineBegins (text : List Char) (place start : Nat) : Prop where
  before : start ≤ place
  first : start = 0 ∨ ∃ newline, start = newline + 1 ∧ text[newline]? = some '\n'
  within : ∀ between, start ≤ between → between < place → text[between]? ≠ some '\n'

structure LiesAt (text : List Char) (place : Nat) (position : Position) : Prop where
  line : position.line = 1 + (text.take place).count '\n'
  column : ∃ start, LineBegins text place start ∧ position.column = place - start + 1

theorem LineBegins.unique {text : List Char} {place start other : Nat} (begins : LineBegins text place start)
    (same : LineBegins text place other) : start = other := by
  -- a later start of the line would follow a newline behind the earlier start
  have latest {early late : Nat} (begins : LineBegins text place early) (again : LineBegins text place late) :
      late ≤ early := by
    have before := again.before
    rcases again.first with zero | ⟨newline, after, found⟩
    · omega
    · apply Nat.le_of_not_lt
      intro behind
      exact begins.within newline (by omega) (by omega) found
  exact Nat.le_antisymm (latest same begins) (latest begins same)

theorem LiesAt.unique {text : List Char} {place : Nat} {position other : Position} (lies : LiesAt text place position)
    (same : LiesAt text place other) : position = other := by
  obtain ⟨line, start, begins, column⟩ := lies
  obtain ⟨sameLine, sameStart, sameBegins, sameColumn⟩ := same
  obtain rfl := begins.unique sameBegins
  cases position
  cases other
  simp_all

section Search

variable {table : Array Nat} {bound lo hi : Nat} {inside : hi ≤ table.size}

private theorem countUpTo_le (ordered : lo ≤ hi) : countUpTo table bound lo hi inside ≤ hi := by
  fun_induction countUpTo table bound lo hi inside with
  | case1 lo hi inside range middle within small ih => exact ih (by omega)
  | case2 lo hi inside range middle within large ih =>
    have := ih (by omega)
    omega
  | case3 lo hi inside range => exact ordered

/-- The search ends where the entries up to the bound end. -/
theorem lt_countUpTo_iff (sorted : ∀ i j (inside : j < table.size) (_ : i < j), table[i] < table[j])
    (below : ∀ i (inside : i < table.size), i < lo → table[i] ≤ bound)
    (above : ∀ i (inside : i < table.size), hi ≤ i → bound < table[i]) (i : Nat) (within : i < table.size) :
    i < countUpTo table bound lo hi inside ↔ table[i] ≤ bound := by
  fun_induction countUpTo table bound lo hi inside with
  | case1 lo hi inside range middle middleWithin small ih =>
    apply ih sorted _ above
    intro j jWithin before
    rcases Nat.lt_or_eq_of_le (Nat.le_of_lt_succ before) with earlier | rfl
    · exact Nat.le_trans (Nat.le_of_lt (sorted j middle middleWithin earlier)) small
    · exact small
  | case2 lo hi inside range middle middleWithin large ih =>
    apply ih sorted below
    intro j jWithin after
    rcases Nat.lt_or_eq_of_le after with later | rfl
    · exact Nat.lt_trans (Nat.lt_of_not_le large) (sorted middle j jWithin later)
    · exact Nat.lt_of_not_le large
  | case3 lo hi inside range =>
    constructor
    · exact below i within
    · intro small
      apply Nat.lt_of_not_le
      intro after
      exact Nat.not_lt_of_le small (above i within (Nat.le_trans (Nat.le_of_not_lt range) after))

end Search

private theorem countP_of_cut {p : Nat → Bool} {items : List Nat} {cut : Nat} (inside : cut ≤ items.length)
    (holds : ∀ i (within : i < items.length), i < cut ↔ p items[i] = true) : items.countP p = cut := by
  have first : (items.take cut).countP p = (items.take cut).length := by
    apply List.countP_eq_length.mpr
    intro item member
    obtain ⟨i, within, rfl⟩ := List.mem_iff_getElem.mp member
    rw [List.length_take] at within
    rw [List.getElem_take]
    exact (holds i (by omega)).mp (by omega)
  have rest : (items.drop cut).countP p = 0 := by
    apply List.countP_eq_zero.mpr
    intro item member
    obtain ⟨i, within, rfl⟩ := List.mem_iff_getElem.mp member
    rw [List.length_drop] at within
    rw [List.getElem_drop]
    exact fun held => absurd ((holds (cut + i) (by omega)).mpr held) (by omega)
  have split : (items.take cut ++ items.drop cut).countP p = (items.take cut).countP p + (items.drop cut).countP p :=
    List.countP_append
  rw [List.take_append_drop, first, rest, List.length_take] at split
  omega

theorem mem_lineStartsFrom {offset start : Nat} {text : List Char} :
    start ∈ lineStartsFrom offset text ↔ ∃ newline, start = offset + newline + 1 ∧ text[newline]? = some '\n' := by
  induction text generalizing offset with
  | nil => simp [lineStartsFrom]
  | cons c cs ih =>
    have later : (∃ newline, start = offset + newline + 1 ∧ (c :: cs)[newline]? = some '\n') ↔
        (start = offset + 1 ∧ c = '\n') ∨ ∃ newline, start = offset + 1 + newline + 1 ∧ cs[newline]? = some '\n' := by
      constructor
      · rintro ⟨newline | newline, rfl, found⟩
        · exact .inl ⟨rfl, Option.some.inj found⟩
        · exact .inr ⟨newline, by omega, found⟩
      · rintro (⟨rfl, rfl⟩ | ⟨newline, rfl, found⟩)
        · exact ⟨0, rfl, rfl⟩
        · exact ⟨newline + 1, by omega, found⟩
    rw [later, lineStartsFrom]
    split
    next newline => simp_all
    next other => simp_all

theorem lineStartsFrom_sorted (offset : Nat) (text : List Char) :
    (∀ start ∈ lineStartsFrom offset text, offset < start) ∧ (lineStartsFrom offset text).Pairwise (· < ·) := by
  constructor
  · intro start member
    obtain ⟨newline, rfl, -⟩ := mem_lineStartsFrom.mp member
    omega
  · induction text generalizing offset with
    | nil => exact .nil
    | cons c cs ih =>
      rw [lineStartsFrom]
      split
      · apply List.pairwise_cons.mpr
        refine ⟨?_, ih (offset + 1)⟩
        intro start member
        obtain ⟨newline, rfl, -⟩ := mem_lineStartsFrom.mp member
        omega
      · exact ih (offset + 1)

/-- Up to a place as many lines have begun as newlines were passed. -/
theorem countP_lineStartsFrom (offset place : Nat) (text : List Char) :
    (lineStartsFrom offset text).countP (· ≤ offset + place) = (text.take place).count '\n' := by
  induction text generalizing offset place with
  | nil => simp [lineStartsFrom]
  | cons c cs ih =>
    cases place with
    | zero =>
      apply List.countP_eq_zero.mpr
      intro start member
      have := (lineStartsFrom_sorted offset (c :: cs)).1 start member
      simp only [decide_eq_true_eq]
      omega
    | succ place =>
      have rest := ih (offset + 1) place
      rw [show offset + 1 + place = offset + (place + 1) by omega] at rest
      rw [lineStartsFrom, List.take_succ_cons, List.count_cons]
      split
      · rw [List.countP_cons_of_pos (by simp), rest]
      · rw [rest, Nat.add_zero]

def lineStarts (text : List Char) : List Nat :=
  0 :: lineStartsFrom 0 text

theorem lineStarts_sorted (text : List Char) : (lineStarts text).Pairwise (· < ·) := by
  obtain ⟨positive, sorted⟩ := lineStartsFrom_sorted 0 text
  exact List.pairwise_cons.mpr ⟨positive, sorted⟩

/-- The last line that begins at or before a place is the line of that place. -/
theorem lineBegins_of_last {text : List Char} {place line : Nat} (inside : line < (lineStarts text).length)
    (begun : ∀ i (within : i < (lineStarts text).length), i ≤ line ↔ (lineStarts text)[i] ≤ place) :
    LineBegins text place (lineStarts text)[line] := by
  constructor
  case before => exact (begun line inside).mp (Nat.le_refl _)
  case first =>
    rcases List.mem_cons.mp (List.getElem_mem inside) with zero | later
    · exact .inl zero
    · obtain ⟨newline, same, found⟩ := mem_lineStartsFrom.mp later
      exact .inr ⟨newline, by omega, found⟩
  case within =>
    intro between after before newline
    -- the newline would begin a later line that has begun before the place too
    have member : between + 1 ∈ lineStarts text :=
      List.mem_cons_of_mem _ (mem_lineStartsFrom.mpr ⟨between, by omega, newline⟩)
    obtain ⟨i, within, same⟩ := List.mem_iff_getElem.mp member
    have earlier := (begun i within).mpr (by omega)
    rcases Nat.lt_or_eq_of_le earlier with less | rfl
    · have := List.pairwise_iff_getElem.mp (lineStarts_sorted text) i line within inside less
      omega
    · omega

/-- The number of the line of a place, as the table is searched for it. -/
def lineOf (text : List Char) (place : Nat) : Nat :=
  countUpTo (lineStarts text).toArray place 0 (lineStarts text).toArray.size (Nat.le_refl _)

theorem lineOf_le (text : List Char) (place : Nat) : lineOf text place ≤ (lineStarts text).length :=
  countUpTo_le (Nat.zero_le _)

theorem lt_lineOf_iff {text : List Char} {place : Nat} (i : Nat) (within : i < (lineStarts text).length) :
    i < lineOf text place ↔ (lineStarts text)[i] ≤ place := by
  have ordered := List.pairwise_iff_getElem.mp (lineStarts_sorted text)
  apply lt_countUpTo_iff
  case sorted => exact fun i j inside before => ordered i j _ inside before
  case below => exact fun _ _ impossible => absurd impossible (Nat.not_lt_zero _)
  case above => exact fun i inside past => absurd inside (Nat.not_lt_of_le past)

theorem lineOf_pos (text : List Char) (place : Nat) : 0 < lineOf text place :=
  (lt_lineOf_iff 0 (Nat.zero_lt_succ _)).mpr (Nat.zero_le _)

theorem lineOf_eq (text : List Char) (place : Nat) : lineOf text place = 1 + (text.take place).count '\n' := by
  have counted := countP_of_cut (p := (· ≤ place)) (lineOf_le text place) fun i within => by
    rw [decide_eq_true_eq]
    exact lt_lineOf_iff i within
  have rest := countP_lineStartsFrom 0 place text
  rw [Nat.zero_add] at rest
  rw [lineStarts, List.countP_cons_of_pos (by simp), rest] at counted
  omega

/-- The search finds an entry of the table, and that is where the line of the place begins. -/
theorem lineOf_begins (text : List Char) (place : Nat) : ∃ start,
    (lineStarts text)[lineOf text place - 1]? = some start ∧ LineBegins text place start := by
  have positive := lineOf_pos text place
  have bounded := lineOf_le text place
  have inside : lineOf text place - 1 < (lineStarts text).length := by omega
  refine ⟨_, List.getElem?_eq_getElem inside, lineBegins_of_last inside ?_⟩
  intro i within
  rw [← lt_lineOf_iff i within]
  omega

private theorem position_of_lineStart {source : String} {index : Int} {start : Nat}
    (entry : (lineStarts source.toList)[lineOf source.toList ((SourceMap.ofText source).clamp index) - 1]? = some start) :
    (SourceMap.ofText source).position index =
      ⟨lineOf source.toList ((SourceMap.ofText source).clamp index),
        (SourceMap.ofText source).clamp index - start + 1⟩ := by
  have looked : (lineStarts source.toList).toArray.getD
      (lineOf source.toList ((SourceMap.ofText source).clamp index) - 1) 0 = start := by
    rw [Array.getD_eq_getD_getElem?, List.getElem?_toArray, entry, Option.getD_some]
  rw [← looked]
  rfl

/-- Where an offset lies in a source, once it is brought inside. -/
theorem position_liesAt (source : String) (index : Int) :
    LiesAt source.toList ((SourceMap.ofText source).clamp index) ((SourceMap.ofText source).position index) := by
  obtain ⟨start, entry, begins⟩ := lineOf_begins source.toList ((SourceMap.ofText source).clamp index)
  rw [position_of_lineStart entry]
  constructor
  case line =>
    have counted := lineOf_eq source.toList ((SourceMap.ofText source).clamp index)
    dsimp only
    omega
  case column => exact ⟨start, begins, rfl⟩

end TagLint.Proofs.SourceLines
