import TagLint.Proofs.Embedding

/-! Positions as numbers of the offsets of a source. Going through a source from its start, positions grow line by line
and column by column, none is left out, and the table of line starts leads from each back to its offset. -/

namespace TagLint.Proofs.PositionOrder
open SourceLines TagLint.Proofs.Embedding

/-- Where the last line of a text begins: just behind its last newline, or at 0 where it has none. -/
def lastStart (text : List Char) : Nat :=
  text.length - (lastLine text).length

/-- The position of a place, by what stands before it. -/
def numbered (text : List Char) (place : Nat) : Position where
  line := 1 + (text.take place).count '\n'
  column := 1 + place - lastStart (text.take place)

/-- Positions by their lines, and within a line by their columns. -/
def Before (first second : Position) : Prop :=
  first.line < second.line ∨ first.line = second.line ∧ first.column < second.column

/-- A position in one of the lines of a list, or just behind one. -/
def On (lines : List (List Char)) (position : Position) : Prop :=
  ∃ (line column : Nat) (chars : List Char), lines[line]? = some chars ∧ column ≤ chars.length ∧
    position = ⟨line + 1, column + 1⟩

def Has (text : List Char) : Position → Prop :=
  On (text.splitOn '\n')

section Text

variable {text : List Char} {place : Nat} {position other : Position}

theorem lineBegins_lastStart (inside : place ≤ text.length) :
    LineBegins text place (lastStart (text.take place)) := by
  have clear : '\n' ∉ (text.drop place).take 0 := by simp
  have begins := @lineBegins_of_first (text.take place) _ _ clear
  rwa [List.take_append_drop, Nat.add_zero, ← lastStart, List.length_take_of_le inside] at begins

theorem liesAt_numbered (inside : place ≤ text.length) : LiesAt text place (numbered text place) := by
  constructor
  case line => rfl
  case column =>
    refine ⟨_, lineBegins_lastStart inside, ?_⟩
    dsimp only [numbered]
    omega

/-- Over a newline the next line is reached, and over any other character the next column. -/
theorem liesAt_next {c : Char} (lies : LiesAt text place position) (here : text[place]? = some c) :
    LiesAt text (place + 1) (if c = '\n' then ⟨position.line + 1, 1⟩ else ⟨position.line, position.column + 1⟩) := by
  obtain ⟨line, start, begins, column⟩ := lies
  have counted : (text.take (place + 1)).count '\n' = (text.take place).count '\n' + [c].count '\n' := by
    rw [List.take_add_one, here, Option.toList_some, List.count_append]
  split
  next newline =>
    subst newline
    constructor
    case line =>
      rw [counted, List.count_singleton_self]
      dsimp only
      omega
    case column => exact ⟨place + 1, ⟨Nat.le_refl _, .inr ⟨place, rfl, here⟩, fun _ _ _ => by omega⟩, by simp⟩
  next other =>
    constructor
    case line =>
      have clear : [c].count '\n' = 0 := List.count_eq_zero.mpr (by simpa using Ne.symm other)
      rwa [counted, clear]
    case column =>
      refine ⟨start, ⟨Nat.le_succ_of_le begins.before, begins.first, ?_⟩, by dsimp only; omega⟩
      intro between after before newline
      rcases Nat.lt_or_eq_of_le (Nat.le_of_lt_succ before) with earlier | rfl
      · exact begins.within between after earlier newline
      · exact other (Option.some.inj (here.symm.trans newline))

theorem Before.trans {first second third : Position} (one : Before first second) (two : Before second third) :
    Before first third := by
  unfold Before at *
  omega

private theorem before_of_next {c : Char} (lies : LiesAt text place position) (here : text[place]? = some c)
    (next : LiesAt text (place + 1) other) : Before position other := by
  rw [next.unique (liesAt_next lies here), Before]
  split
  · exact .inl (by dsimp only; omega)
  · exact .inr ⟨rfl, by dsimp only; omega⟩

/-- Later places have later positions. -/
theorem before_of_lt {first last : Nat} (earlier : first < last) (inside : last ≤ text.length)
    (lies : LiesAt text first position) (later : LiesAt text last other) : Before position other := by
  induction last generalizing other with
  | zero => contradiction
  | succ last ih =>
    have here : text[last]? = some text[last] := List.getElem?_eq_getElem inside
    have middle := liesAt_numbered (Nat.le_of_succ_le inside)
    have step := before_of_next middle here later
    rcases Nat.lt_or_eq_of_le (Nat.le_of_lt_succ earlier) with before | rfl
    · exact (ih before (Nat.le_of_succ_le inside) middle).trans step
    · rwa [lies.unique middle]

private theorem liesAt_zero_iff : LiesAt text 0 position ↔ position = ⟨1, 1⟩ := by
  have first : LiesAt text 0 ⟨1, 1⟩ := ⟨by simp, 0, ⟨Nat.le_refl _, .inl rfl, by omega⟩, by simp⟩
  exact ⟨fun lies => lies.unique first, fun same => same ▸ first⟩

private theorem On.line_pos {lines : List (List Char)} (on : On lines position) : 0 < position.line := by
  obtain ⟨line, column, chars, -, -, rfl⟩ := on
  dsimp only
  omega

private theorem on_cons_iff {first : List Char} {rest : List (List Char)} : On (first :: rest) position ↔
    (∃ column : Nat, column ≤ first.length ∧ position = ⟨1, column + 1⟩) ∨
      ∃ old, On rest old ∧ position = ⟨old.line + 1, old.column⟩ := by
  constructor
  · rintro ⟨line | line, column, chars, found, inside, rfl⟩
    · obtain rfl := Option.some.inj found
      exact .inl ⟨column, inside, rfl⟩
    · exact .inr ⟨_, ⟨line, column, chars, found, inside, rfl⟩, rfl⟩
  · rintro (⟨column, inside, rfl⟩ | ⟨old, ⟨line, column, chars, found, inside, rfl⟩, rfl⟩)
    · exact ⟨0, column, first, rfl, inside, rfl⟩
    · exact ⟨line + 1, column, chars, found, inside, rfl⟩

private theorem has_newline_cons_iff : Has ('\n' :: text) position ↔
    position = ⟨1, 1⟩ ∨ ∃ old, Has text old ∧ position = pushed ['\n'] old := by
  have cut : ('\n' :: text).splitOn '\n' = [] :: text.splitOn '\n' := List.splitOn_cons_eq_if_modifyHead ..
  have push (old : Position) : pushed ['\n'] old = ⟨old.line + 1, old.column⟩ := by
    simp [pushed, lastLine, List.rtakeWhile]
  simp only [Has, cut, on_cons_iff, push, List.length_nil, Nat.le_zero, exists_eq_left]
  rfl

private theorem has_cons_iff_of_ne {c : Char} (other : c ≠ '\n') : Has (c :: text) position ↔
    position = ⟨1, 1⟩ ∨ ∃ old, Has text old ∧ position = pushed [c] old := by
  obtain ⟨first, rest, lines⟩ := List.exists_cons_of_ne_nil (List.splitOn_ne_nil '\n' text)
  have cut : (c :: text).splitOn '\n' = (c :: first) :: rest := by
    rw [List.splitOn_cons_eq_if_modifyHead, if_neg (by simpa using other), lines, List.modifyHead_cons]
  have pushFirst (column : Nat) : pushed [c] ⟨1, column + 1⟩ = ⟨1, (column + 1 : Nat) + 1⟩ := by
    simp [pushed, lastLine, List.rtakeWhile, other]
  have pushLater {old : Position} (on : On rest old) : pushed [c] ⟨old.line + 1, old.column⟩ = ⟨old.line + 1, old.column⟩ := by
    have := on.line_pos
    simp [pushed, other]
    omega
  rw [Has, Has, cut, lines, on_cons_iff]
  simp only [on_cons_iff]
  constructor
  · rintro (⟨_ | column, inside, rfl⟩ | ⟨old, on, rfl⟩)
    · exact .inl rfl
    · exact .inr ⟨_, .inl ⟨column, Nat.le_of_succ_le_succ inside, rfl⟩, (pushFirst column).symm⟩
    · exact .inr ⟨_, .inr ⟨old, on, rfl⟩, (pushLater on).symm⟩
  · rintro (rfl | ⟨old, ⟨column, inside, rfl⟩ | ⟨older, on, rfl⟩, rfl⟩)
    · exact .inl ⟨0, Nat.zero_le _, rfl⟩
    · exact .inl ⟨column + 1, Nat.succ_le_succ inside, pushFirst column⟩
    · exact .inr ⟨older, on, pushLater on⟩

/-- With one more character in front a text has the positions that it had, each pushed on, and the first one. -/
theorem has_cons_iff {c : Char} :
    Has (c :: text) position ↔ position = ⟨1, 1⟩ ∨ ∃ old, Has text old ∧ position = pushed [c] old := by
  by_cases newline : c = '\n'
  · subst newline
    exact has_newline_cons_iff
  · exact has_cons_iff_of_ne newline

private theorem liesAt_cons_iff {c : Char} (inside : place ≤ text.length) :
    LiesAt (c :: text) (place + 1) position ↔ ∃ old, LiesAt text place old ∧ position = pushed [c] old := by
  have behind := @liesAt_behind [c] _ _ _ (liesAt_numbered inside)
  rw [List.singleton_append, List.length_singleton, Nat.add_comm] at behind
  constructor
  · intro lies
    exact ⟨_, liesAt_numbered inside, lies.unique behind⟩
  · rintro ⟨old, lies, rfl⟩
    rwa [lies.unique (liesAt_numbered inside)]

/-- The positions of a text are those of its places. -/
theorem has_iff : Has text position ↔ ∃ place ≤ text.length, LiesAt text place position := by
  induction text generalizing position with
  | nil =>
    have nothing : ¬ ∃ old, On [] old ∧ position = ⟨old.line + 1, old.column⟩ := by
      rintro ⟨old, ⟨line, column, chars, found, -⟩, -⟩
      contradiction
    rw [Has, List.splitOn_nil, on_cons_iff, or_iff_left nothing]
    simp only [List.length_nil, Nat.le_zero, exists_eq_left, liesAt_zero_iff]
    rfl
  | cons c text ih =>
    rw [has_cons_iff]
    constructor
    · rintro (rfl | ⟨old, had, pushes⟩)
      · exact ⟨0, Nat.zero_le _, liesAt_zero_iff.mpr rfl⟩
      · obtain ⟨place, inside, lies⟩ := ih.mp had
        exact ⟨place + 1, Nat.succ_le_succ inside, (liesAt_cons_iff inside).mpr ⟨old, lies, pushes⟩⟩
    · rintro ⟨place, inside, lies⟩
      cases place with
      | zero => exact .inl (liesAt_zero_iff.mp lies)
      | succ place =>
        have within := Nat.le_of_succ_le_succ inside
        obtain ⟨old, earlier, pushes⟩ := (liesAt_cons_iff within).mp lies
        exact .inr ⟨old, ih.mpr ⟨place, within, earlier⟩, pushes⟩

end Text

theorem length_lineStartsFrom (offset : Nat) (text : List Char) :
    (lineStartsFrom offset text).length = text.count '\n' := by
  induction text generalizing offset with
  | nil => rfl
  | cons c cs ih =>
    rw [lineStartsFrom, List.count_cons]
    split
    next newline => rw [List.length_cons, ih]
    next other => rw [ih, Nat.add_zero]

theorem lineCount_ofText (source : String) :
    (SourceMap.ofText source).lineCount = 1 + source.toList.count '\n' := by
  change (lineStarts source.toList).length = _
  rw [lineStarts, List.length_cons, length_lineStartsFrom, Nat.add_comm]

/-- The offset of a source that is nearest to an index. -/
def nearest (source : String) (index : Int) : Nat :=
  (max 0 (min index source.length)).toNat

private theorem clamp_eq_nearest (source : String) (index : Int) :
    (SourceMap.ofText source).clamp index = nearest source index := by
  change (min index source.length).toNat = (max 0 (min index source.length)).toNat
  omega

private theorem nearest_le (source : String) (index : Int) : nearest source index ≤ source.toList.length := by
  rw [nearest, String.length_toList]
  omega

private theorem nearest_of_le {source : String} {place : Nat} (inside : place ≤ source.toList.length) :
    nearest source place = place := by
  rw [nearest]
  rw [String.length_toList] at inside
  omega

/-- The offset at a position, read from the table of line starts. -/
def offsetAt? (map : SourceMap) (position : Position) : Option Int :=
  map.lineStarts[(position.line - 1).toNat]?.map fun (start : Nat) => start + position.column - 1

/-- What a source map answers for an index, with the entry of the table that it reads and the way back by that entry. -/
structure Tabulated (source : String) (index : Int) (position : Position) : Prop where
  numbered : position = numbered source.toList (nearest source index)
  line : 1 ≤ position.line ∧ position.line ≤ (SourceMap.ofText source).lineCount
  column : 1 ≤ position.column
  entry : (SourceMap.ofText source).lineStarts[(position.line - 1).toNat]? =
    some (lastStart (source.toList.take (nearest source index)))
  back : offsetAt? (SourceMap.ofText source) position = some (nearest source index : Int)

theorem position_eq_numbered (source : String) (index : Int) :
    (SourceMap.ofText source).position index = numbered source.toList (nearest source index) := by
  have lies := position_liesAt source index
  rw [clamp_eq_nearest] at lies
  exact lies.unique (liesAt_numbered (nearest_le source index))

theorem entry_of_position (source : String) (index : Int) :
    (SourceMap.ofText source).lineStarts[(((SourceMap.ofText source).position index).line - 1).toNat]? =
      some (lastStart (source.toList.take (nearest source index))) := by
  obtain ⟨start, found, begins⟩ := lineOf_begins source.toList (nearest source index)
  obtain rfl := begins.unique (lineBegins_lastStart (nearest_le source index))
  have number := lineOf_eq source.toList (nearest source index)
  have line : (((SourceMap.ofText source).position index).line - 1).toNat =
      lineOf source.toList (nearest source index) - 1 := by
    rw [position_eq_numbered]
    dsimp only [numbered]
    omega
  rw [line]
  exact (List.getElem?_toArray ..).trans found

theorem position_tabulated (source : String) (index : Int) :
    Tabulated source index ((SourceMap.ofText source).position index) := by
  have begun := (lineBegins_lastStart (nearest_le source index)).before
  have passed := List.Sublist.count_le '\n' (List.take_sublist (nearest source index) source.toList)
  constructor
  case numbered => exact position_eq_numbered source index
  case line =>
    rw [position_eq_numbered, lineCount_ofText]
    dsimp only [numbered]
    omega
  case column =>
    rw [position_eq_numbered]
    dsimp only [numbered]
    omega
  case entry => exact entry_of_position source index
  case back =>
    rw [offsetAt?, entry_of_position, position_eq_numbered, Option.map_some]
    dsimp only [numbered]
    congr 1
    omega

/-- Lines and columns number the offsets of a source in their order, over all the positions that its lines have. -/
theorem positions_number_offsets (source : String) :
    (SourceMap.ofText source).lineCount = 1 + source.toList.count '\n' ∧
      (∀ index : Int, Tabulated source index ((SourceMap.ofText source).position index)) ∧
      (∀ first last : Nat, first < last → last ≤ source.toList.length →
        Before ((SourceMap.ofText source).position first) ((SourceMap.ofText source).position last)) ∧
      ∀ position : Position, Has source.toList position ↔
        ∃ place : Nat, place ≤ source.toList.length ∧ (SourceMap.ofText source).position place = position := by
  have placed {place : Nat} (inside : place ≤ source.toList.length) :
      LiesAt source.toList place ((SourceMap.ofText source).position place) := by
    rw [position_eq_numbered, nearest_of_le inside]
    exact liesAt_numbered inside
  refine ⟨lineCount_ofText source, position_tabulated source, ?_, ?_⟩
  · intro first last earlier inside
    exact before_of_lt earlier inside (placed (Nat.le_trans (Nat.le_of_lt earlier) inside)) (placed inside)
  · intro position
    rw [has_iff]
    constructor
    · rintro ⟨place, inside, lies⟩
      exact ⟨place, inside, (placed inside).unique lies⟩
    · rintro ⟨place, inside, rfl⟩
      exact ⟨place, inside, placed inside⟩

/-- Behind the last newline of a source an empty line is left. -/
theorem poem_is_numbered :
    let map := SourceMap.ofText "O\n\nhush\n"
    ((0 < 8 ∧ 8 ≤ "O\n\nhush\n".toList.length) ∧ Before (map.position (0 : Nat)) (map.position (8 : Nat))) ∧
      map.position (-7) = ⟨1, 1⟩ ∧ map.position 2 = ⟨2, 1⟩ ∧ map.position 7 = ⟨3, 5⟩ ∧ map.position 100 = ⟨4, 1⟩ := by
  intro map
  have inside : 8 ≤ "O\n\nhush\n".toList.length := by decide
  refine ⟨⟨⟨by decide, inside⟩, ?_⟩, by decide +kernel⟩
  exact (positions_number_offsets "O\n\nhush\n").2.2.1 0 8 (by decide) inside

end TagLint.Proofs.PositionOrder
