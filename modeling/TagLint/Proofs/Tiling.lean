import TagLint.Proofs.OrderedChoice

/-! Occurrences and the gaps between them tile a text. A scan skips only separators: every other character can be part
of a name, so an occurrence begins there at the latest. -/

namespace TagLint.Proofs.Tiling
open Text Occurrence ScanForm OrderedChoice

/-- The characters that are in no name. -/
def separators : List Char :=
  [' ', '"', '\'', '>', '=', '^', '/']

theorem isNameChar_iff (c : Char) : isNameChar c = true ↔ c ∉ separators := by
  simp [isNameChar, separators, and_assoc]

/-- What lies before, between and after the spans of occurrences, from a place on. -/
def gaps (text : List Char) : Nat → List Occurrence → List (List Char)
  | place, [] => [text.drop place]
  | place, occ :: occs => part text place occ.start :: gaps text occ.stop occs

def spans (text : List Char) (occs : List Occurrence) : List (List Char) :=
  occs.map fun occ => part text occ.start occ.stop

/-- Items of two lists in turn, beginning with the first. -/
def alternate : List (List Char) → List (List Char) → List Char
  | gap :: gaps, span :: spans => gap ++ span ++ alternate gaps spans
  | gaps, [] => gaps.flatten
  | [], spans => spans.flatten

def covers (place : Nat) (occ : Occurrence) : Bool :=
  occ.start ≤ place && place < occ.stop

/-- A character that can stand in a name can begin one. -/
theorem begins_of_isNameChar {text : List Char} {place : Nat} {c : Char} (found : text[place]? = some c)
    (usable : isNameChar c = true) : ∃ name stop, NameSpan text place name stop := by
  cases here : nameAt? (text.drop place) with
  | some split => exact NameSpan.exists_of_found here
  | none =>
    obtain ⟨inside, rfl⟩ := List.getElem?_eq_some_iff.mp found
    have empty := (takeWhile_of_nameAt?_none here).1
    rw [List.drop_eq_getElem_cons inside, List.takeWhile_cons_of_pos usable] at empty
    contradiction

private theorem part_of_written {text : List Char} {occ : Occurrence} (written : Written text occ) :
    part text occ.start occ.stop = occ.text := by
  have covered := (at?_append written.found).1
  rw [part, covered, Occurrence.stop, Nat.add_sub_cancel_left, List.take_left]

private theorem bounds_of_written {text : List Char} {occ : Occurrence} (written : Written text occ) :
    occ.start < occ.stop ∧ occ.stop ≤ text.length := by
  obtain ⟨covered, named⟩ := at?_append written.found
  have whole := congrArg List.length (part_of_written written)
  have positive := List.length_pos_iff.mpr named
  have long : occ.name.length ≤ occ.text.length := by
    simp only [Occurrence.text, List.length_append]
    omega
  simp only [part, List.length_take, List.length_drop] at whole
  unfold Occurrence.stop at whole ⊢
  omega

variable {text : List Char} {place : Nat} {occs : List Occurrence}

private theorem starts_after (scanned : Leftmost text place occs) : ∀ occ ∈ occs, place ≤ occ.start := by
  induction scanned with
  | done never => exact fun _ member => nomatch member
  | next before after written rest ih =>
    refine List.forall_mem_cons.mpr ⟨after, fun occ member => ?_⟩
    have progress := (bounds_of_written written).1
    exact Nat.le_trans after (Nat.le_trans (Nat.le_of_lt progress) (ih occ member))

private theorem pairwise_apart (scanned : Leftmost text place occs) :
    occs.Pairwise fun occ later => occ.stop ≤ later.start := by
  induction scanned with
  | done never => exact .nil
  | next before after written rest ih => exact .cons (starts_after rest) ih

private theorem alternate_gaps (scanned : Leftmost text place occs) :
    alternate (gaps text place occs) (spans text occs) = text.drop place := by
  induction scanned with
  | done never => exact List.append_nil _
  | @next place occ occs before after written rest ih =>
    have progress := (bounds_of_written written).1
    change part text place occ.start ++ part text occ.start occ.stop ++
      alternate (gaps text occ.stop occs) (spans text occs) = text.drop place
    rw [ih, part_append_part text after (Nat.le_of_lt progress)]
    exact part_append_drop text (Nat.le_trans after (Nat.le_of_lt progress))

private theorem separator_of_skipped {stop : Nat} {c : Char}
    (never : ∀ start name ending, place ≤ start → start < stop → ¬ NameSpan text start name ending)
    (member : c ∈ part text place stop) : c ∈ separators := by
  obtain ⟨index, inside, rfl⟩ := List.mem_iff_getElem.mp member
  have short : index < stop - place := by
    simp only [part, List.length_take] at inside
    omega
  have found := getElem?_part text place stop index short
  rw [List.getElem?_eq_getElem inside] at found
  apply Classical.byContradiction
  intro usable
  obtain ⟨name, ending, span⟩ := begins_of_isNameChar found.symm ((isNameChar_iff _).mpr usable)
  exact never _ _ _ (Nat.le_add_right place index) (by omega) span

private theorem separators_in_gaps (scanned : Leftmost text place occs) :
    ∀ gap ∈ gaps text place occs, ∀ c ∈ gap, c ∈ separators := by
  induction scanned with
  | @done place never =>
    intro gap member c among
    obtain rfl := List.mem_singleton.mp member
    have whole : part text place text.length = text.drop place := by
      rw [part, ← List.length_drop, List.take_length]
    exact separator_of_skipped (fun start name ending after _ => never start name ending after) (whole ▸ among)
  | next before after written rest ih =>
    exact List.forall_mem_cons.mpr ⟨fun c among => separator_of_skipped before among, ih⟩

theorem countP_covers {index : Nat} {c : Char} (scanned : Leftmost text place occs) (after : place ≤ index)
    (found : text[index]? = some c) (usable : isNameChar c = true) : occs.countP (covers index) = 1 := by
  obtain ⟨name, stop, span⟩ := begins_of_isNameChar found usable
  induction scanned with
  | done never => exact absurd span (never _ _ _ after)
  | @next place occ occs before _ written rest ih =>
    have begun : occ.start ≤ index := Nat.le_of_not_lt fun early => before _ _ _ after early span
    by_cases within : index < occ.stop
    · have uncovered : occs.countP (covers index) = 0 := by
        apply List.countP_eq_zero.mpr
        intro later member
        have beyond := starts_after rest later member
        simp only [covers, Bool.and_eq_true, decide_eq_true_eq]
        omega
      rw [List.countP_cons_of_pos (by simp [covers, begun, within]), uncovered]
    · rw [List.countP_cons_of_neg (by simp [covers, within])]
      exact ih (Nat.le_of_not_lt within)

theorem length_le (scanned : Leftmost text place occs) : occs.length ≤ text.length - place := by
  induction scanned with
  | done never => exact Nat.zero_le _
  | @next place occ occs before after written rest ih =>
    obtain ⟨progress, inside⟩ := bounds_of_written written
    rw [List.length_cons]
    omega

structure Tiles (text : List Char) (occs : List Occurrence) : Prop where
  solid : ∀ occ ∈ occs, occ.start < occ.stop ∧ occ.stop ≤ text.length
  apart : occs.Pairwise fun occ later => occ.stop ≤ later.start
  spelled : ∀ occ ∈ occs, part text occ.start occ.stop = occ.lead ++ occ.name ++ occ.written?.getD []
  assigned : ∀ occ ∈ occs, ∀ written, occ.written? = some written →
    ∃ link raw, occ.assignment = some ⟨link, raw⟩ ∧ written = link ++ raw
  whole : alternate (gaps text 0 occs) (spans text occs) = text
  skipped : ∀ gap ∈ gaps text 0 occs, ∀ c ∈ gap, c ∈ separators
  covered : ∀ (place : Nat) c, text[place]? = some c → c ∉ separators → occs.countP (covers place) = 1
  few : occs.length ≤ text.length

/-- The occurrences that a scan finds and the gaps that it leaves make up the text, in order and without overlap, and
nothing but separators is left in the gaps. -/
theorem scan_tiles (text : List Char) : Tiles text (scan text) := by
  have scanned : Leftmost text 0 (scan text) := leftmost_remaining (Cursor.ofText text) rfl
  constructor
  case solid => exact fun occ member => bounds_of_written (scanned.written occ member)
  case apart => exact pairwise_apart scanned
  case spelled => exact fun occ member => part_of_written (scanned.written occ member)
  case assigned =>
    intro occ _ written given
    obtain ⟨assignment, present, rfl⟩ := Option.map_eq_some_iff.mp given
    exact ⟨assignment.link, assignment.raw, present, rfl⟩
  case whole => exact alternate_gaps scanned
  case skipped => exact separators_in_gaps scanned
  case covered =>
    intro place c found usable
    exact countP_covers scanned (Nat.zero_le _) found ((isNameChar_iff c).mpr usable)
  case few => exact length_le scanned

end TagLint.Proofs.Tiling
