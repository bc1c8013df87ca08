import Mathlib.Data.List.Infix
import TagLint.Proofs.Duplicates

/-! Located attributes and the source. A tag may stand anywhere; offsets that are found in its text then name the same
characters in the source. Slices take bounds of either sign, and a negative one counts from the end of the text. -/

namespace TagLint.Proofs.SourceSpans
open Text Occurrence ScanForm Duplicates

/-- The place that a bound of a slice means; a bound outside the text stands for the nearer end. -/
def bound (length : Nat) (index : Int) : Nat :=
  if index < 0 then (index + length).toNat else min index.toNat length

def slice (text : List Char) (start stop : Int) : List Char :=
  part text (bound text.length start) (bound text.length stop)

def sliceFrom (text : List Char) (start : Int) : List Char :=
  text.drop (bound text.length start)

def StandsAt (source text : List Char) (index : Int) : Prop :=
  slice source index (index + text.length) = text

private theorem length_part (text : List Char) (start stop : Nat) :
    (part text start stop).length = min (stop - start) (text.length - start) := by
  rw [part, List.length_take, List.length_drop]

theorem add_length_part {text : List Char} {start stop : Nat} (ordered : start ≤ stop) (inside : stop ≤ text.length) :
    start + (part text start stop).length = stop := by
  rw [length_part]
  omega

variable {source text : List Char} {index : Int}

/-- Offsets into a text that stands in a source are offsets into the source. -/
theorem StandsAt.bound_add (stands : StandsAt source text index) (solid : text ≠ []) {offset : Nat}
    (inside : offset ≤ text.length) : bound source.length (index + offset) = bound source.length index + offset := by
  have positive := List.length_pos_iff.mpr solid
  have lengths := congrArg List.length stands
  rw [slice, length_part] at lengths
  unfold bound at lengths ⊢
  split at lengths <;> split at lengths <;> split <;> omega

private theorem StandsAt.prefix_sliceFrom (stands : StandsAt source text index) (solid : text ≠ []) {offset : Nat}
    (inside : offset ≤ text.length) : text.drop offset <+: sliceFrom source (index + offset) := by
  have whole : text <+: source.drop (bound source.length index) := by
    conv => lhs; rw [← stands]
    exact List.take_prefix _ _
  rw [sliceFrom, stands.bound_add solid inside, ← List.drop_drop]
  exact whole.drop offset

theorem StandsAt.slice_eq (stands : StandsAt source text index) (solid : text ≠ []) {offset : Nat} {found : List Char}
    (inside : offset + found.length ≤ text.length) (here : found <+: text.drop offset) :
    slice source (index + offset) (index + offset + found.length) = found := by
  have last : bound source.length (index + offset + found.length) =
      bound source.length index + (offset + found.length) := by
    rw [← stands.bound_add solid inside]
    congr 1
    omega
  have there := here.trans (stands.prefix_sliceFrom solid (by omega))
  rw [sliceFrom, stands.bound_add solid (by omega)] at there
  rw [slice, part, last, stands.bound_add solid (by omega), Nat.add_sub_add_left, Nat.add_sub_cancel_left]
  exact (List.prefix_iff_eq_take.mp there).symm

structure AssignmentStands (text : List Char) (place : Nat) (assignment : Assignment) : Prop where
  link : ∃ before after, assignment.link = before ++ '=' :: after ∧
    (∀ c ∈ before, isBlank c = true) ∧ ∀ c ∈ after, isBlank c = true
  found : assignment.link ++ assignment.raw <+: text.drop place
  inside : place + assignment.link.length + assignment.raw.length ≤ text.length

structure OccurrenceStands (text : List Char) (occ : Occurrence) : Prop where
  found : occ.name <+: text.drop occ.nameStart
  inside : occ.nameStart + occ.name.length ≤ text.length
  begins : ∃ c more, occ.name = c :: more ∧ isBlank c = false
  chars : ∀ c ∈ occ.name, isNameChar c = true
  ends : ∀ c, text[occ.nameStart + occ.name.length]? = some c → isNameChar c = false
  assigned : ∀ assignment, occ.assignment = some assignment →
    AssignmentStands text (occ.nameStart + occ.name.length) assignment

/-- A name that begins with a blank is nothing but that blank. -/
private theorem span_solid {text : List Char} {start name stop : Nat} (span : NameSpan text start name stop)
    (solid : ∀ c, part text name stop = [c] → isBlank c = false) :
    (∃ c more, part text name stop = c :: more ∧ isBlank c = false) ∧
    (∀ c ∈ part text name stop, isNameChar c = true) ∧ ∀ c, text[stop]? = some c → isNameChar c = false := by
  cases span with
  | @word c found member =>
    have ordered := lt_runEnd found member
    refine ⟨⟨c, part text (runEnd isBlank text start + 1) (runEnd isNameChar text (runEnd isBlank text start)), ?_,
      runEnd_stops found⟩, ?_, fun d => runEnd_stops⟩
    · rw [← part_append_part text (Nat.le_succ _) ordered, part_succ found]
      rfl
    · rw [part_runEnd]
      exact List.all_eq_true.mp List.all_takeWhile
  | blank _ ends after before other spaces =>
    obtain ⟨c, found, blank⟩ := runEnd_holds after before
    rw [solid c (part_succ found)] at blank
    contradiction

private theorem key_of_isBlank {occ : Occurrence} {c : Char} (name : occ.name = [c]) (blank : isBlank c = true) :
    occ.key = "" := by
  simp [Occurrence.key, name, trim, trimLeft, blank, lower, lowerAfter]

theorem ValueSpan.bounds {text : List Char} {start stop : Nat} (span : ValueSpan text start stop)
    (inside : start ≤ text.length) : start ≤ stop ∧ stop ≤ text.length := by
  cases span with
  | quoted quoted =>
    exact ⟨Nat.le_succ_of_le (Nat.le_of_lt quoted.after), (List.getElem?_eq_some_iff.mp quoted.closed).1⟩
  | bare _ => exact ⟨le_runEnd .., runEnd_le _ inside⟩

theorem assignment_stands {text : List Char} {place : Nat} {assignment : Assignment}
    (assigned : Assigned text place (some assignment)) : AssignmentStands text place assignment := by
  cases assigned with
  | @given value ending follows span =>
    obtain ⟨sign, begins, inside⟩ := follows
    have bounds := ValueSpan.bounds span (Nat.le_of_lt inside)
    have before := le_runEnd isBlank text place
    have after : runEnd isBlank text place + 1 ≤ value := begins ▸ le_runEnd ..
    constructor
    case link =>
      refine ⟨part text place (runEnd isBlank text place), part text (runEnd isBlank text place + 1) value, ?_, ?_, ?_⟩
      · rw [← part_append_part text before (Nat.le_of_lt after), ← part_append_part text (Nat.le_succ _) after,
          part_succ sign]
        rfl
      · rw [part_runEnd]
        exact List.all_eq_true.mp List.all_takeWhile
      · rw [begins, part_runEnd]
        exact List.all_eq_true.mp List.all_takeWhile
    case found =>
      rw [part_append_part text (by omega) bounds.1]
      exact List.take_prefix _ _
    case inside =>
      simp only [length_part]
      omega

theorem occurrence_stands {text : List Char} {occ : Occurrence} (written : Written text occ) (keyed : occ.key ≠ "") :
    OccurrenceStands text occ := by
  cases written with
  | @mk start name stop assignment span assigned =>
    obtain ⟨first, second, third⟩ := span.bounds
    have place : start + (part text start name).length = name := add_length_part first (by omega)
    have ending : name + (part text name stop).length = stop := add_length_part (by omega) third
    have solid : ∀ c, part text name stop = [c] → isBlank c = false := by
      intro c single
      cases blank : isBlank c with
      | false => rfl
      | true => exact absurd (key_of_isBlank single blank) keyed
    obtain ⟨begins, chars, ends⟩ := span_solid span solid
    constructor <;> simp only [Occurrence.nameStart, place, ending]
    case found => exact List.take_prefix _ _
    case inside => exact third
    case begins => exact begins
    case chars => exact chars
    case ends => exact ends
    case assigned =>
      rintro given rfl
      exact assignment_stands assigned

theorem OccurrenceStands.moved {rest : List Char} {occ : Occurrence} (here : OccurrenceStands rest occ)
    (skipped : List Char) : OccurrenceStands (skipped ++ rest) (moved skipped.length occ) := by
  have start : (ScanForm.moved skipped.length occ).nameStart = skipped.length + occ.nameStart := by
    simp only [Occurrence.nameStart, ScanForm.moved]
    omega
  have inside := here.inside
  have stop : (ScanForm.moved skipped.length occ).nameStart + occ.name.length =
      skipped.length + (occ.nameStart + occ.name.length) := by rw [start, Nat.add_assoc]
  constructor
  case found =>
    rw [start, List.drop_length_add_append]
    exact here.found
  case inside =>
    change (ScanForm.moved skipped.length occ).nameStart + occ.name.length ≤ (skipped ++ rest).length
    rw [stop, List.length_append]
    exact Nat.add_le_add_left inside _
  case begins => exact here.begins
  case chars => exact here.chars
  case ends =>
    intro c follows
    change (skipped ++ rest)[(ScanForm.moved skipped.length occ).nameStart + occ.name.length]? = some c at follows
    rw [stop, ← List.head?_drop, List.drop_length_add_append, List.head?_drop] at follows
    exact here.ends c follows
  case assigned =>
    intro assignment given
    obtain ⟨link, found, fits⟩ := here.assigned assignment given
    change AssignmentStands (skipped ++ rest) ((ScanForm.moved skipped.length occ).nameStart + occ.name.length) assignment
    rw [stop]
    refine ⟨link, ?_, ?_⟩
    · rw [List.drop_length_add_append]
      exact found
    · rw [List.length_append]
      omega

theorem stands_in_tag {tag : OpenTag} {key : String} {occ : Occurrence} (member : occ ∈ occurrencesOf tag key) :
    OccurrenceStands tag.text.toList occ ∧ (tag.text.toList.takeWhile (!isBlank ·)).length ≤ occ.nameStart ∧
      occ.key = key := by
  simp only [occurrencesOf, List.mem_filter, List.mem_map, Bool.and_eq_true, beq_iff_eq, bne_iff_ne] at member
  obtain ⟨⟨found, scanned, rfl⟩, same, solid⟩ := member
  have stands := (occurrence_stands (written_of_mem_scan scanned) (same ▸ solid)).moved
    (tag.text.toList.takeWhile (!isBlank ·))
  rw [List.takeWhile_append_dropWhile] at stands
  refine ⟨stands, ?_, same⟩
  simp only [Occurrence.nameStart, moved]
  omega

/-- What the raw texts and the value's offset of an attribute mean in a source, where its name ends at `stop` and the
tag's text at `last`. -/
structure ValueIn (source : List Char) (stop last : Int) (attr : Attribute) (raw : String) : Prop where
  assignment : ∃ before after assignment, attr.rawAssignment? = some assignment ∧
    assignment.toList = before ++ '=' :: after ++ raw.toList ∧
    (∀ c ∈ before, isBlank c = true) ∧ (∀ c ∈ after, isBlank c = true) ∧ assignment.toList <+: sliceFrom source stop
  value : ∃ valueIndex, attr.valueIndex? = some valueIndex ∧ raw.toList <+: sliceFrom source valueIndex ∧
    valueIndex + raw.length ≤ last

/-- What the offsets of an attribute mean in a source: its name is the slice of `length` characters from `index` on, and
its texts follow there. -/
structure LocatedIn (source : List Char) (tag : OpenTag) (key : String) (attr : Attribute) (index : Int) (length : Nat) :
    Prop where
  nonempty : 1 ≤ length
  afterTagName : tag.index + 1 + (tag.text.toList.takeWhile (!isBlank ·)).length ≤ index
  insideTag : index + length ≤ tag.index + 1 + tag.text.length
  whole : (slice source index (index + length)).length = length
  begins : ∃ c more, slice source index (index + length) = c :: more ∧ isBlank c = false
  chars : ∀ c ∈ slice source index (index + length), isNameChar c = true
  ends : ∀ c, tag.text.toList[(index + length - (tag.index + 1)).toNat]? = some c → isNameChar c = false
  keyed : String.ofList (lower (trim (slice source index (index + length)))) = key
  valued : ∀ raw, attr.rawValue? = some raw →
    ValueIn source (index + length) (tag.index + 1 + tag.text.length) attr raw
  bare : attr.rawValue? = none → attr.rawAssignment? = none ∧ attr.valueIndex? = some index

private theorem value_in_source {source : List Char} {tag : OpenTag} {occ : Occurrence} {before : Attribute}
    {raw : String} (stands : StandsAt source tag.text.toList (tag.index + 1)) (solid : tag.text.toList ≠ [])
    (here : OccurrenceStands tag.text.toList occ) (valued : (taken (tag.index + 1) occ before).rawValue? = some raw) :
    ValueIn source (tag.index + 1 + occ.nameStart + occ.name.length) (tag.index + 1 + tag.text.length)
      (taken (tag.index + 1) occ before) raw := by
  cases given : occ.assignment with
  | none => simp [taken, given] at valued
  | some assignment =>
    obtain ⟨link, rawText⟩ := assignment
    obtain rfl : String.ofList rawText = raw := by simpa [taken, given] using valued
    obtain ⟨⟨beforeSign, afterSign, sign, blankBefore, blankAfter⟩, linked, fits⟩ := here.assigned _ given
    simp only at sign linked fits
    have size : tag.text.length = tag.text.toList.length := String.length_toList.symm
    have follows : rawText <+: tag.text.toList.drop (occ.nameStart + occ.name.length + link.length) := by
      rw [← List.drop_drop]
      simpa using linked.drop link.length
    have stop : tag.index + 1 + (occ.nameStart : Int) + occ.name.length =
        tag.index + 1 + ((occ.nameStart + occ.name.length : Nat) : Int) := by omega
    have value : tag.index + 1 + (occ.nameStart : Int) + occ.name.length + link.length =
        tag.index + 1 + ((occ.nameStart + occ.name.length + link.length : Nat) : Int) := by omega
    constructor
    case assignment =>
      refine ⟨beforeSign, afterSign, .ofList (link ++ rawText), ?_, ?_, blankBefore, blankAfter, ?_⟩
      · simp only [taken, given]
      · rw [String.toList_ofList, String.toList_ofList, sign]
      · rw [stop, String.toList_ofList]
        exact linked.trans (stands.prefix_sliceFrom solid (by omega))
    case value =>
      refine ⟨tag.index + 1 + (occ.nameStart : Int) + occ.name.length + link.length, ?_, ?_, ?_⟩
      · simp only [taken, given, Occurrence.nameStart, Int.natCast_add]
      · rw [value, String.toList_ofList]
        exact follows.trans (stands.prefix_sliceFrom solid (by omega))
      · rw [value, String.length_ofList]
        omega

theorem located_in_source {source : List Char} {tag : OpenTag} {key : String} {occ : Occurrence} (before : Attribute)
    (stands : StandsAt source tag.text.toList (tag.index + 1)) (member : occ ∈ occurrencesOf tag key) :
    LocatedIn source tag key (taken (tag.index + 1) occ before) (tag.index + 1 + occ.nameStart) occ.name.length := by
  obtain ⟨here, after, same⟩ := stands_in_tag member
  have inside := here.inside
  obtain ⟨c, more, begins, visible⟩ := here.begins
  have positive : 0 < occ.name.length := by simp [begins]
  have solid : tag.text.toList ≠ [] := List.length_pos_iff.mp (by omega)
  have size : tag.text.length = tag.text.toList.length := String.length_toList.symm
  have spelled := stands.slice_eq solid inside here.found
  constructor
  case nonempty => exact positive
  case afterTagName => omega
  case insideTag => omega
  case whole => rw [spelled]
  case begins =>
    rw [spelled]
    exact ⟨c, more, begins, visible⟩
  case chars =>
    rw [spelled]
    exact here.chars
  case ends =>
    have place : (tag.index + 1 + (occ.nameStart : Int) + occ.name.length - (tag.index + 1)).toNat =
        occ.nameStart + occ.name.length := by omega
    rw [place]
    exact here.ends
  case keyed =>
    rw [spelled]
    exact same
  case valued => exact fun raw => value_in_source stands solid here
  case bare =>
    intro absent
    cases given : occ.assignment with
    | none => simp [taken, given, Occurrence.nameStart]
    | some assignment => simp [taken, given] at absent

private theorem taken_of_fresh {base : Int} {occs : List Occurrence} {before after : Attribute} {index : Int}
    (resolved : Resolved base occs before after) (fresh : before.nameIndex? = none ∧ before.valueIndex? = none)
    (located : after.nameIndex? = some index) : ∃ occ ∈ occs, after = taken base occ before := by
  rcases resolved.settled_or_taken with settled | taken
  · have unnamed : after.nameIndex? = none := by rw [settled, Attribute.settle, fresh.1]
    rw [unnamed] at located
    contradiction
  · exact taken

private theorem taken_nameIndex (base : Int) (occ : Occurrence) (before : Attribute) :
    (taken base occ before).nameIndex? = some (base + occ.nameStart) := by
  unfold taken
  split <;> simp [Occurrence.nameStart]

/-- Where the text of a tag stands in a source, what is located by it stands in the source too. -/
theorem located_attributes_stand_in_source {source : String} {tag : OpenTag} {attrs : Attributes}
    (stands : slice source.toList (tag.index + 1) (tag.index + 1 + tag.text.length) = tag.text.toList)
    (fresh : ∀ entry ∈ attrs.entries, entry.2.nameIndex? = none ∧ entry.2.valueIndex? = none) :
    ∀ entry ∈ (attrs.locate tag).entries, ∀ index, entry.2.nameIndex? = some index →
      ∃ length, LocatedIn source.toList tag entry.1 entry.2 index length := by
  intro entry member index located
  rw [locate_eq_map, Attributes.map, List.mem_map] at member
  obtain ⟨⟨key, before⟩, member, rfl⟩ := member
  obtain ⟨occ, found, same⟩ := taken_of_fresh (settle_resolves _ _ _) (fresh _ member) located
  simp only [same, taken_nameIndex, Option.some.injEq] at located ⊢
  refine ⟨occ.name.length, ?_⟩
  rw [← located]
  refine located_in_source before ?_ found
  rw [StandsAt, String.length_toList]
  exact stands

theorem located_duplicate_stands_in_source :
    ∃ length, LocatedIn "é<img Alt ALT = 'a b' src>".toList ⟨"img Alt ALT = 'a b' src", 1⟩ "alt"
      ⟨"alt", none, some "'a b'", some " = 'a b'", some 10, some 16⟩ 10 length :=
  @located_attributes_stand_in_source "é<img Alt ALT = 'a b' src>" ⟨"img Alt ALT = 'a b' src", 1⟩
    (.ofList [("src", ⟨"src", none, none, none, none, none⟩), ("alt", ⟨"alt", none, none, none, none, none⟩)])
    (by decide +kernel) (by decide +kernel) ("alt", ⟨"alt", none, some "'a b'", some " = 'a b'", some 10, some 16⟩)
    (by decide +kernel) 10 rfl

end TagLint.Proofs.SourceSpans
