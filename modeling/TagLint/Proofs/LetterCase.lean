import TagLint.Proofs.Respelling

/-! Tags that differ in the case of ASCII letters. The scanner is blind to case, and so is the lower case of a whole
text, in which a letter can change the form of a sigma next to it by having case but not by which case it has. -/

namespace TagLint.Proofs.LetterCase
open Text Occurrence Tiling Respelling

/-- What holds of `A` to `Z` one by one holds of every capital letter of ASCII. -/
theorem forall_capital {P : Char → Prop} (all : ∀ i < 26, P (Char.ofNat (65 + i))) {letter : Char}
    (capital : 65 ≤ letter.toNat ∧ letter.toNat ≤ 90) : P letter := by
  have law := all (letter.toNat - 65) (by omega)
  rwa [Nat.add_sub_cancel' capital.1, Char.ofNat_toNat] at law

/-- A function that does not tell `A` to `Z` from `a` to `z` is blind to case. -/
theorem blind_of_capitals {p : Char → α} (same : ∀ i < 26, p (Char.ofNat (65 + i)).toLower = p (Char.ofNat (65 + i)))
    (c : Char) : p c.toLower = p c := by
  by_cases capital : 65 ≤ c.toNat ∧ c.toNat ≤ 90
  · exact forall_capital (P := fun c => p c.toLower = p c) same capital
  · have fixed : c.toLower = c := dif_neg capital
    rw [fixed]

private theorem unseen_toLower : Unseen Char.toLower := by
  have marks (c : Char) : separators.map (c.toLower == ·) = separators.map (c == ·) :=
    blind_of_capitals (p := fun c => separators.map (c == ·)) (by decide) c
  constructor
  case blank => exact blind_of_capitals (by decide)
  case separator =>
    intro c d member
    rw [← beq_iff_eq, List.map_inj_left.mp (marks c) d member, beq_iff_eq]

private theorem isCased_toLower (c : Char) : isCased c.toLower = isCased c :=
  blind_of_capitals (by decide) c

private theorem isCaseIgnorable_toLower (c : Char) : isCaseIgnorable c.toLower = isCaseIgnorable c :=
  blind_of_capitals (by decide) c

private theorem lowerChar_toLower (c : Char) : lowerChar c.toLower = lowerChar c :=
  blind_of_capitals (by decide) c

private theorem isSigma_toLower (c : Char) : (c.toLower == 'Σ') = (c == 'Σ') :=
  blind_of_capitals (p := (· == 'Σ')) (by decide) c

private theorem meetsCased_toLower (text : List Char) : meetsCased (text.map Char.toLower) = meetsCased text := by
  rw [meetsCased, meetsCased, dropWhile_respelled isCaseIgnorable_toLower, List.head?_map, Option.any_map]
  simp only [isCased_toLower]

private theorem lowerAfter_toLower (before text : List Char) :
    lowerAfter (before.map Char.toLower) (text.map Char.toLower) = lowerAfter before text := by
  induction text generalizing before with
  | nil => rfl
  | cons c cs ih =>
    have rest := ih (c :: before)
    rw [List.map_cons] at rest
    rw [List.map_cons, lowerAfter, lowerAfter, rest, isSigma_toLower, lowerChar_toLower, meetsCased_toLower,
      meetsCased_toLower]

theorem trim_toLower (text : List Char) : trim (text.map Char.toLower) = (trim text).map Char.toLower := by
  simp only [trim, trimLeft, dropWhile_respelled unseen_toLower.blank, ← List.map_reverse]

theorem key_toLower (occ : Occurrence) : (respelled Char.toLower occ).key = occ.key := by
  rw [Occurrence.key, Occurrence.key]
  congr 1
  change lower (trim (occ.name.map Char.toLower)) = lower (trim occ.name)
  rw [trim_toLower]
  exact lowerAfter_toLower [] (trim occ.name)

/-- Where an occurrence and its pieces begin and end. -/
structure Extents where
  whole : Nat × Nat
  lead : Nat × Nat
  name : Nat × Nat
  written? : Option (Nat × Nat)
  link? : Option (Nat × Nat)
  raw? : Option (Nat × Nat)
deriving DecidableEq

def extents (occ : Occurrence) : Extents :=
  let nameStop := occ.nameStart + occ.name.length
  { whole := (occ.start, occ.stop)
    lead := (occ.start, occ.nameStart)
    name := (occ.nameStart, nameStop)
    written? := occ.assignment.map fun _ => (nameStop, occ.stop)
    link? := occ.assignment.map fun a => (nameStop, nameStop + a.link.length)
    raw? := occ.assignment.map fun a => (nameStop + a.link.length, occ.stop) }

private theorem extents_respelled (f : Char → Char) (occ : Occurrence) : extents (respelled f occ) = extents occ := by
  have nameStart : (respelled f occ).nameStart = occ.nameStart := by simp [Occurrence.nameStart, respelled]
  have nameLength : (respelled f occ).name.length = occ.name.length := List.length_map f
  simp only [extents, stop_respelled, nameStart, nameLength]
  cases assigned : occ.assignment <;> simp [respelled, respelledAssignment, assigned]

private theorem toList_toLower (text : String) : text.toLower.toList = text.toList.map Char.toLower :=
  String.toList_map

theorem extents_toLower (text : String) :
    (scan text.toLower.toList).map extents = (scan text.toList).map extents := by
  rw [toList_toLower, scan_respelled unseen_toLower, List.map_map]
  exact List.map_congr_left fun occ _ => extents_respelled Char.toLower occ

/-- Attributes with the same name and places, whose texts differ in the case of ASCII letters at most. -/
structure Alike (first second : Attribute) : Prop where
  name : first.name = second.name
  value : first.value?.map String.toLower = second.value?.map String.toLower
  rawValue : first.rawValue?.map String.toLower = second.rawValue?.map String.toLower
  rawAssignment : first.rawAssignment?.map String.toLower = second.rawAssignment?.map String.toLower
  nameIndex : first.nameIndex? = second.nameIndex?
  valueIndex : first.valueIndex? = second.valueIndex?

def AllAlike (first second : Attributes) : Prop :=
  List.Forall₂ (fun entry other => entry.1 = other.1 ∧ Alike entry.2 other.2) first.entries second.entries

private theorem alike_of_respelled {first second : Attribute}
    (same : respelledAttribute Char.toLower first = respelledAttribute Char.toLower second) : Alike first second := by
  simp only [respelledAttribute, Attribute.mk.injEq] at same
  obtain ⟨name, value, rawValue, rawAssignment, nameIndex, valueIndex⟩ := same
  exact ⟨name, value, rawValue, rawAssignment, nameIndex, valueIndex⟩

private theorem allAlike_of_respelled {first second : Attributes}
    (same : respelledAttributes Char.toLower first = respelledAttributes Char.toLower second) :
    AllAlike first second := by
  have entries := congrArg Attributes.entries same
  simp only [respelledAttributes, Attributes.map] at entries
  rw [← List.forall₂_eq_eq_eq, List.forall₂_map_left_iff, List.forall₂_map_right_iff] at entries
  refine entries.imp ?_
  intro entry other same
  obtain ⟨keys, attrs⟩ := Prod.mk.inj same
  exact ⟨keys, alike_of_respelled attrs⟩

/-- What two texts of a tag have in common when letter case does not count. -/
structure FoundAlike (first second : String) : Prop where
  scanned : (scan first.toList).map extents = (scan second.toList).map extents
  built : AllAlike (OpenTag.mk first 0).attributes (OpenTag.mk second 0).attributes
  located : ∀ (attrs : Attributes) (index : Int), AllAlike (attrs.locate ⟨first, index⟩) (attrs.locate ⟨second, index⟩)

/-- Attributes are found at the same places in two texts that differ in the case of ASCII letters alone. -/
theorem matching_ignores_case {first second : String} (same : first.toLower = second.toLower) :
    FoundAlike first second := by
  have tags (index : Int) : respelledTag Char.toLower ⟨first, index⟩ = respelledTag Char.toLower ⟨second, index⟩ :=
    congrArg (OpenTag.mk · index) same
  constructor
  case scanned => rw [← extents_toLower, same, extents_toLower]
  case built =>
    apply allAlike_of_respelled
    rw [← attributes_respelled unseen_toLower key_toLower, tags,
      attributes_respelled unseen_toLower key_toLower]
  case located =>
    intro attrs index
    apply allAlike_of_respelled
    rw [← locate_respelled unseen_toLower key_toLower, tags, locate_respelled unseen_toLower key_toLower]

/-- A final sigma stays one, and `.` before a letter makes it none, in whatever case the letters are. -/
theorem sigma_ignores_case :
    "p XΣ.iD='Ab' xΣ".toLower = "P xΣ.ID='aB' XΣ".toLower ∧ FoundAlike "p XΣ.iD='Ab' xΣ" "P xΣ.ID='aB' XΣ" ∧
      (OpenTag.mk "p XΣ.iD='Ab' xΣ" 0).attributes.keys = ["xσ.id", "xς"] := by
  have same : "p XΣ.iD='Ab' xΣ".toLower = "P xΣ.ID='aB' XΣ".toLower := by
    rw [← String.toList_inj, toList_toLower, toList_toLower]
    decide
  exact ⟨same, matching_ignores_case same, by decide +kernel⟩

end TagLint.Proofs.LetterCase
