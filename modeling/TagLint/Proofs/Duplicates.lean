import Mathlib.Data.List.Forall2
import Mathlib.Data.List.TakeWhile
import TagLint.Attributes.Locate
import TagLint.Proofs.ScanForm

/-! An attribute that is written several times is located by one of its occurrences. The scan shows the occurrences of
all keys to all attributes; each attribute is told only about its own, so a law for one attribute is a law for all. -/

namespace TagLint.Proofs.Duplicates
open ScanForm

/-- The occurrences of a key in a tag, in document order, at offsets of the tag's text. A blank name has no key. -/
def occurrencesOf (tag : OpenTag) (key : String) : List Occurrence :=
  let name := tag.text.toList.takeWhile (!Text.isBlank ·)
  let rest := tag.text.toList.dropWhile (!Text.isBlank ·)
  ((Occurrence.scan rest).map (moved name.length)).filter fun occ => occ.key == key && key != ""

/-- What an attribute takes from an occurrence of its key, in a tag whose text begins at `base`. -/
def taken (base : Int) (occ : Occurrence) (before : Attribute) : Attribute :=
  let nameIndex := base + (occ.start + occ.lead.length)
  match occ.assignment with
  | some ⟨link, raw⟩ => { before with
      nameIndex? := some nameIndex
      rawAssignment? := some (.ofList (link ++ raw))
      rawValue? := some (.ofList raw)
      valueIndex? := some (nameIndex + occ.name.length + link.length) }
  | none => { before with
      nameIndex? := some nameIndex
      rawAssignment? := none
      rawValue? := none
      valueIndex? := some nameIndex }

structure Resolved (base : Int) (occs : List Occurrence) (before after : Attribute) : Prop where
  name : after.name = before.name
  value : after.value? = before.value?
  fixed : before.valueIndex?.isSome → after = before
  named : before.valueIndex? = none → before.nameIndex?.isSome →
    after = match occs.find? (·.assignment.isSome) with
      | some occ => taken base occ before
      | none => { before with valueIndex? := before.nameIndex? }
  fresh : before.valueIndex? = none → before.nameIndex? = none →
    after = match occs.find? (·.assignment.isSome) <|> occs.head? with
      | some occ => taken base occ before
      | none => before

def shown (base : Int) (occs : List Occurrence) (attr : Attribute) : Attribute :=
  occs.foldl (fun attr occ => attr.observe base occ) attr

private theorem shown_of_value (base : Int) (occs : List Occurrence) (attr : Attribute)
    (located : attr.valueIndex?.isSome) : shown base occs attr = attr := by
  induction occs with
  | nil => rfl
  | cons occ occs ih =>
    have passed : attr.observe base occ = attr := by simp [Attribute.observe, Attribute.passesOver, located]
    rw [shown, List.foldl_cons, passed]
    exact ih

private theorem shown_of_valued {base : Int} {occs : List Occurrence} {occ : Occurrence} {attr : Attribute}
    (absent : attr.valueIndex? = none) (first : occs.find? (·.assignment.isSome) = some occ) :
    shown base occs attr = taken base occ attr := by
  induction occs generalizing attr with
  | nil => simp at first
  | cons other occs ih =>
    rw [shown, List.foldl_cons]
    cases assigned : other.assignment with
    | some assignment =>
      have same : other = occ := by simpa [List.find?_cons, assigned] using first
      subst same
      have here : attr.observe base other = taken base other attr := by
        simp [Attribute.observe, Attribute.passesOver, Attribute.take, taken, absent, assigned, Occurrence.written?,
          Occurrence.raw?, Occurrence.valueStart?, Occurrence.nameStart]
        omega
      rw [here]
      exact shown_of_value base occs _ (by simp [taken, assigned])
    | none =>
      have later : occs.find? (·.assignment.isSome) = some occ := by simpa [List.find?_cons, assigned] using first
      have kept : (attr.observe base other).valueIndex? = none := by
        rw [Attribute.observe]
        split <;> simp [Attribute.take, Occurrence.valueStart?, assigned, absent]
      have overwritten : taken base occ (attr.observe base other) = taken base occ attr := by
        rw [Attribute.observe]
        split <;> simp [Attribute.take, taken]
      exact (ih kept later).trans overwritten

private theorem shown_of_named {base : Int} {occs : List Occurrence} {attr : Attribute} (named : attr.nameIndex?.isSome)
    (never : occs.find? (·.assignment.isSome) = none) : shown base occs attr = attr := by
  induction occs with
  | nil => rfl
  | cons occ occs ih =>
    have bare : occ.assignment = none := by
      simpa using List.find?_eq_none.mp never occ List.mem_cons_self
    have passed : attr.observe base occ = attr := by simp [Attribute.observe, Attribute.passesOver, named, bare]
    rw [shown, List.foldl_cons, passed]
    exact ih (by simpa [List.find?_cons, bare] using never)

private theorem settle_of_value {attr : Attribute} (located : attr.valueIndex?.isSome) : attr.settle = attr := by
  obtain ⟨index, found⟩ := Option.isSome_iff_exists.mp located
  have same : (attr.valueIndex? <|> attr.nameIndex?) = attr.valueIndex? := by simp [found]
  rw [Attribute.settle, same]

private theorem taken_located (base : Int) (occ : Occurrence) (attr : Attribute) :
    (taken base occ attr).valueIndex?.isSome := by
  unfold taken
  split <;> rfl

private theorem observe_keeps (base : Int) (occ : Occurrence) (attr : Attribute) :
    (attr.observe base occ).name = attr.name ∧ (attr.observe base occ).value? = attr.value? := by
  rw [Attribute.observe]
  split <;> exact ⟨rfl, rfl⟩

theorem shown_keeps (base : Int) (occs : List Occurrence) (attr : Attribute) :
    (shown base occs attr).name = attr.name ∧ (shown base occs attr).value? = attr.value? := by
  induction occs generalizing attr with
  | nil => exact ⟨rfl, rfl⟩
  | cons occ occs ih =>
    obtain ⟨name, value⟩ := observe_keeps base occ attr
    exact ⟨(ih _).1.trans name, (ih _).2.trans value⟩

private theorem settle_shown_of_valued {base : Int} {occs : List Occurrence} {occ : Occurrence} {attr : Attribute}
    (absent : attr.valueIndex? = none) (first : occs.find? (·.assignment.isSome) = some occ) :
    (shown base occs attr).settle = taken base occ attr := by
  rw [shown_of_valued absent first, settle_of_value (taken_located base occ attr)]

private theorem settle_shown_of_bare {base : Int} {occs : List Occurrence} {attr : Attribute}
    (absent : attr.valueIndex? = none) (unnamed : attr.nameIndex? = none)
    (never : occs.find? (·.assignment.isSome) = none) :
    (shown base occs attr).settle = match occs.head? with
      | some occ => taken base occ attr
      | none => attr := by
  cases occs with
  | nil =>
    have same : (attr.valueIndex? <|> attr.nameIndex?) = attr.valueIndex? := by simp [absent, unnamed]
    change attr.settle = attr
    rw [Attribute.settle, same]
  | cons occ occs =>
    have bare : occ.assignment = none := by
      simpa using List.find?_eq_none.mp never occ List.mem_cons_self
    have rest : occs.find? (·.assignment.isSome) = none := by simpa [List.find?_cons, bare] using never
    have first : attr.observe base occ = attr.take base occ := by
      simp [Attribute.observe, Attribute.passesOver, absent, unnamed]
    have later : shown base occs (attr.take base occ) = attr.take base occ := shown_of_named rfl rest
    rw [shown, List.foldl_cons, first, ← shown, later]
    simp [Attribute.settle, Attribute.take, taken, bare, absent, Occurrence.valueStart?, Occurrence.written?,
      Occurrence.raw?, Occurrence.nameStart]

theorem settle_resolves (base : Int) (occs : List Occurrence) (attr : Attribute) :
    Resolved base occs attr (shown base occs attr).settle := by
  constructor
  case fixed =>
    intro located
    rw [shown_of_value base occs attr located, settle_of_value located]
  case named =>
    intro absent named
    cases first : occs.find? (·.assignment.isSome) with
    | some occ => exact settle_shown_of_valued absent first
    | none =>
      rw [shown_of_named named first]
      simp [Attribute.settle, absent]
  case fresh =>
    intro absent unnamed
    cases first : occs.find? (·.assignment.isSome) with
    | some occ => exact settle_shown_of_valued absent first
    | none => exact settle_shown_of_bare absent unnamed first
  case name => exact (shown_keeps base occs attr).1
  case value => exact (shown_keeps base occs attr).2

private theorem mem_of_chosen {occs : List Occurrence} {occ : Occurrence}
    (chosen : (occs.find? (·.assignment.isSome) <|> occs.head?) = some occ) : occ ∈ occs := by
  cases valued : occs.find? (·.assignment.isSome) with
  | some first =>
    rw [valued] at chosen
    exact Option.some.inj chosen ▸ List.mem_of_find?_eq_some valued
  | none =>
    rw [valued] at chosen
    exact List.mem_of_head? chosen

/-- An attribute that is not located by an occurrence has at most its name stand for its value. -/
theorem Resolved.settled_or_taken {base : Int} {occs : List Occurrence} {before after : Attribute}
    (law : Resolved base occs before after) : after = before.settle ∨ ∃ occ ∈ occs, after = taken base occ before := by
  cases value : before.valueIndex? with
  | some index =>
    have located : before.valueIndex?.isSome := by rw [value, Option.isSome_some]
    left
    rw [law.fixed located, settle_of_value located]
  | none =>
    cases name : before.nameIndex? with
    | some index =>
      have same := law.named value (by rw [name, Option.isSome_some])
      split at same
      next occ found => exact .inr ⟨occ, List.mem_of_find?_eq_some found, same⟩
      next =>
        left
        rw [same, Attribute.settle, value]
        rfl
    | none =>
      have same := law.fresh value name
      split at same
      next occ chosen => exact .inr ⟨occ, mem_of_chosen chosen, same⟩
      next =>
        have unsettled : (before.valueIndex? <|> before.nameIndex?) = before.valueIndex? := by simp [value, name]
        left
        rw [same, Attribute.settle, unsettled]

/-- Showing occurrences to all attributes shows each attribute those of its key. -/
theorem foldl_observe (base : Int) (occs : List Occurrence) (attrs : Attributes) :
    occs.foldl (Attributes.observe base) attrs =
      attrs.map fun key => shown base (occs.filter fun occ => occ.key == key && key != "") := by
  induction occs generalizing attrs with
  | nil => exact attrs.map_id.symm
  | cons occ occs ih =>
    rw [List.foldl_cons, ih, Attributes.observe]
    split
    next blank =>
      have nobody : ∀ key, (occ.key == key && key != "") = false := by
        intro key
        simp_all
      simp only [List.filter_cons, nobody, Bool.false_eq_true, if_false]
    next solid =>
      rw [Attributes.modify, Attributes.map_map]
      congr 1
      funext key attr
      by_cases same : key = occ.key
      · subst same
        simp only [beq_self_eq_true, if_true, List.filter_cons, bne, Bool.true_and, solid, Bool.not_false]
        rfl
      · simp [same, Ne.symm same]

theorem occurrences_eq (tag : OpenTag) :
    tag.occurrences = (Occurrence.scan (tag.text.toList.dropWhile (!Text.isBlank ·))).map
      (moved (tag.text.toList.takeWhile (!Text.isBlank ·)).length) := by
  rw [OpenTag.occurrences, OpenTag.nameLength?]
  cases found : tag.text.toList.findIdx? Text.isBlank with
  | none =>
    have solid := List.findIdx?_eq_none_iff.mp found
    have empty : tag.text.toList.dropWhile (!Text.isBlank ·) = [] :=
      List.dropWhile_eq_nil_iff.mpr fun c member => by simp [solid c member]
    rw [empty, Occurrence.scan, Occurrence.Cursor.remaining_eq]
    rfl
  | some length =>
    obtain ⟨inside, first⟩ := List.findIdx?_eq_some_iff_findIdx_eq.mp found
    have name : (tag.text.toList.takeWhile (!Text.isBlank ·)).length = length := by
      rw [List.takeWhile_eq_take_findIdx_not, List.length_take]
      simp only [Bool.not_not, first]
      omega
    have rest : tag.text.toList.dropWhile (!Text.isBlank ·) = tag.text.toList.drop length := by
      rw [List.dropWhile_eq_drop_findIdx_not]
      simp only [Bool.not_not, first]
    simp only [name, rest]
    exact remaining_moved length (Occurrence.Cursor.ofText (tag.text.toList.drop length))

theorem locate_eq_map (attrs : Attributes) (tag : OpenTag) :
    attrs.locate tag = attrs.map fun key attr => (shown (tag.index + 1) (occurrencesOf tag key) attr).settle := by
  rw [Attributes.locate, foldl_observe, Attributes.map_map, occurrences_eq]
  rfl

/-- Keys keep their order. A located attribute stays as it is; any other is located by the first occurrence of its key
that has a value, and one without a name by the first occurrence where none has a value. -/
theorem locate_resolves_duplicates (attrs : Attributes) (tag : OpenTag) :
    List.Forall₂ (fun before after => after.1 = before.1 ∧
        Resolved (tag.index + 1) (occurrencesOf tag before.1) before.2 after.2)
      attrs.entries (attrs.locate tag).entries := by
  rw [locate_eq_map, Attributes.map, List.forall₂_map_right_iff, List.forall₂_same]
  intro entry _
  exact ⟨rfl, settle_resolves _ _ _⟩

end TagLint.Proofs.Duplicates
