import TagLint.Proofs.BuiltAttributes

/-! Looking for attributes in one text after another. The first text that names an attribute locates it for good, so
texts that come later only concern what has not been found yet. -/

namespace TagLint.Proofs.FirstFound
open Duplicates BuiltAttributes

/-- Found before any text is looked at, by a name at least. -/
def known (attr : Attribute) : Bool :=
  attr.nameIndex?.isSome || attr.valueIndex?.isSome

def writes (tag : OpenTag) (key : String) : Bool :=
  key != "" && (writtenKeys tag).contains key

/-- What looking in one text makes of the attribute of a key. -/
def sought (key : String) (attr : Attribute) (tag : OpenTag) : Attribute :=
  (shown (tag.index + 1) (occurrencesOf tag key) attr).settle

theorem get?_locate (attrs : Attributes) (tag : OpenTag) (key : String) :
    (attrs.locate tag).get? key = (attrs.get? key).map fun attr => sought key attr tag := by
  rw [locate_eq_map, Attributes.get?_map]
  rfl

theorem occurrencesOf_eq_nil_iff {tag : OpenTag} {key : String} :
    occurrencesOf tag key = [] ↔ writes tag key = false := by
  rw [occurrencesOf_eq, List.filter_eq_nil_iff, writes, writtenKeys_eq, Bool.and_eq_false_imp]
  constructor
  · intro unwritten solid
    rw [Bool.eq_false_iff]
    intro among
    obtain ⟨occ, member, rfl⟩ := List.mem_map.mp (List.contains_iff_mem.mp among)
    exact unwritten occ member (by simpa using solid)
  · intro absent occ member same
    obtain ⟨same, solid⟩ := Bool.and_eq_true_iff.mp same
    obtain rfl := eq_of_beq same
    have among := List.contains_iff_mem.mpr (List.mem_map_of_mem (f := Occurrence.key) member)
    rw [absent solid] at among
    contradiction

section Attribute

variable {key : String} {attr : Attribute} {tag : OpenTag}

/-- Whatever is known or named has a value's place from then on. -/
theorem valueIndex_sought (found : (known attr || writes tag key) = true) :
    (sought key attr tag).valueIndex?.isSome = true := by
  have law := settle_resolves (tag.index + 1) (occurrencesOf tag key) attr
  change Resolved _ _ _ (sought key attr tag) at law
  have located (occ : Occurrence) : (taken (tag.index + 1) occ attr).valueIndex?.isSome = true := by
    rw [taken_valueIndex?]
    rfl
  cases value : attr.valueIndex? with
  | some index => rw [law.fixed (by simp [value]), value, Option.isSome_some]
  | none =>
    cases name : attr.nameIndex? with
    | some index =>
      rw [law.named value (by simp [name])]
      split
      · exact located _
      · exact Option.isSome_iff_exists.mpr ⟨index, name⟩
    | none =>
      have unknown : known attr = false := by simp [known, value, name]
      have written : occurrencesOf tag key ≠ [] := by
        rw [unknown, Bool.false_or] at found
        rw [ne_eq, occurrencesOf_eq_nil_iff, found]
        decide
      obtain ⟨first, rest, occs⟩ := List.exists_cons_of_ne_nil written
      rw [law.fresh value name, occs]
      cases (first :: rest).find? (·.assignment.isSome) with
      | some occ => exact located occ
      | none => exact located first

private theorem sought_of_value (located : attr.valueIndex?.isSome = true) : sought key attr tag = attr :=
  (settle_resolves (tag.index + 1) (occurrencesOf tag key) attr).fixed located

private theorem sought_of_unnamed (absent : (known attr || writes tag key) = false) : sought key attr tag = attr := by
  obtain ⟨unknown, unnamed⟩ := Bool.or_eq_false_iff.mp absent
  obtain ⟨name, value⟩ := Bool.or_eq_false_iff.mp unknown
  have law := settle_resolves (tag.index + 1) (occurrencesOf tag key) attr
  have same := law.fresh (by simpa using value) (by simpa using name)
  rw [occurrencesOf_eq_nil_iff.mpr unnamed] at same
  rw [sought, occurrencesOf_eq_nil_iff.mpr unnamed]
  exact same

private theorem foldl_sought_of_value (tags : List OpenTag) (located : attr.valueIndex?.isSome = true) :
    tags.foldl (sought key) attr = attr := by
  induction tags with
  | nil => rfl
  | cons tag tags ih => rw [List.foldl_cons, sought_of_value located, ih]

/-- By induction on the texts: an attribute stays as it is up to the first that finds it, and from there on. -/
theorem foldl_sought (tags : List OpenTag) : tags.foldl (sought key) attr =
    match tags.find? fun tag => known attr || writes tag key with
    | some tag => sought key attr tag
    | none => attr := by
  induction tags with
  | nil => rfl
  | cons tag tags ih =>
    rw [List.foldl_cons, List.find?_cons]
    cases found : known attr || writes tag key with
    | true => exact foldl_sought_of_value tags (valueIndex_sought found)
    | false => rw [sought_of_unnamed found, ih]

end Attribute

theorem get?_foldl_locate (tags : List OpenTag) (attrs : Attributes) (key : String) :
    (tags.foldl Attributes.locate attrs).get? key = (attrs.get? key).map fun attr => tags.foldl (sought key) attr := by
  induction tags generalizing attrs with
  | nil => exact (Option.map_id_apply ..).symm
  | cons tag tags ih =>
    rw [List.foldl_cons, ih, get?_locate, Option.map_map]
    rfl

theorem keys_foldl_locate (tags : List OpenTag) (attrs : Attributes) :
    (tags.foldl Attributes.locate attrs).keys = attrs.keys := by
  induction tags generalizing attrs with
  | nil => rfl
  | cons tag tags ih => rw [List.foldl_cons, ih, locate_eq_map, Attributes.keys_map]

/-- Looking again where an attribute has been looked for, from whatever offset, finds nothing new. -/
theorem locate_again (attrs : Attributes) (tag : OpenTag) (index : Int) :
    (attrs.locate tag).locate { tag with index } = attrs.locate tag := by
  rw [locate_eq_map (attrs.locate tag)]
  apply Attributes.map_eq_self
  rintro ⟨key, attr⟩ member
  rw [locate_eq_map] at member
  obtain ⟨⟨other, before⟩, -, same⟩ := List.mem_map.mp member
  obtain ⟨rfl, rfl⟩ := Prod.mk.inj same
  change sought other (sought other before tag) { tag with index } = sought other before tag
  cases found : known before || writes tag other with
  | true => exact sought_of_value (valueIndex_sought found)
  | false =>
    rw [sought_of_unnamed found]
    exact sought_of_unnamed found

/-- What becomes of attributes that are looked for in several texts. -/
structure FirstCome (attrs : Attributes) : Prop where
  keys : ∀ tags : List OpenTag, (tags.foldl Attributes.locate attrs).keys = attrs.keys
  several : ∀ (tags : List OpenTag) (key : String), (tags.foldl Attributes.locate attrs).get? key =
    match tags.find? fun tag => (attrs.get? key).any known || writes tag key with
    | some tag => (attrs.locate tag).get? key
    | none => attrs.get? key
  two : ∀ (first second : OpenTag) (key : String), ((attrs.locate first).locate second).get? key =
    if (attrs.get? key).any known || writes first key then (attrs.locate first).get? key
    else (attrs.locate second).get? key
  again : ∀ (tag : OpenTag) (index : Int), (attrs.locate tag).locate { tag with index } = attrs.locate tag

/-- Of several texts the first counts for an attribute that is known already, and for any other the first that names it;
one that none of them names stays as it was. -/
theorem locating_is_first_come (attrs : Attributes) : FirstCome attrs := by
  have several (tags : List OpenTag) (key : String) : (tags.foldl Attributes.locate attrs).get? key =
      match tags.find? fun tag => (attrs.get? key).any known || writes tag key with
      | some tag => (attrs.locate tag).get? key
      | none => attrs.get? key := by
    rw [get?_foldl_locate]
    cases held : attrs.get? key with
    | none =>
      split
      · rw [get?_locate, held]
        rfl
      · rfl
    | some attr =>
      simp only [Option.map_some, Option.any_some, foldl_sought, get?_locate, held]
      split <;> rfl
  constructor
  case keys => exact fun tags => keys_foldl_locate tags attrs
  case several => exact several
  case two =>
    intro first second key
    have both := several [first, second] key
    have alone := several [second] key
    simp only [List.foldl_cons, List.foldl_nil] at both alone
    rw [both, alone, List.find?_cons]
    cases (attrs.get? key).any known || writes first key <;> rfl
  case again => exact locate_again attrs

example :
    let attrs : Attributes := .ofList [("id", { name := "id" }), ("src", { name := "src" }), ("alt", { name := "alt" })]
    let once := attrs.locate ⟨"img ID src", 4⟩
    (once.locate ⟨"img id='a' SRC=b alt", 30⟩).entries.map (fun entry => (entry.2.nameIndex?, entry.2.valueIndex?)) =
      [(some 9, some 9), (some 12, some 12), (some 48, some 48)] := by
  decide +kernel

end TagLint.Proofs.FirstFound
