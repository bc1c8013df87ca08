import TagLint.Proofs.BuiltAttributes
import TagLint.Proofs.Tiling

/-! Texts that are respelled character by character. All that the scanner asks about a character is whether it is a
blank and which separator it is; a respelling that changes neither respells the occurrences and moves none of them.
Where keys stay the same too, the attributes of a tag are respelled and nothing else. -/

namespace TagLint.Proofs.Respelling
open Text Occurrence Duplicates BuiltAttributes Tiling

/-- A respelling that the scanner cannot see. -/
structure Unseen (f : Char → Char) : Prop where
  blank : ∀ c, isBlank (f c) = isBlank c
  separator : ∀ c, ∀ d ∈ separators, f c = d ↔ c = d

def respelledAssignment (f : Char → Char) (assignment : Assignment) : Assignment :=
  ⟨assignment.link.map f, assignment.raw.map f⟩

def respelled (f : Char → Char) (occ : Occurrence) : Occurrence :=
  ⟨occ.start, occ.lead.map f, occ.name.map f, occ.assignment.map (respelledAssignment f)⟩

def respelledCursor (f : Char → Char) (cursor : Cursor) : Cursor :=
  ⟨cursor.offset, cursor.rest.map f⟩

def respelledTag (f : Char → Char) (tag : OpenTag) : OpenTag :=
  { tag with text := tag.text.map f }

def respelledAttribute (f : Char → Char) (attr : Attribute) : Attribute := { attr with
  value? := attr.value?.map (String.map f)
  rawValue? := attr.rawValue?.map (String.map f)
  rawAssignment? := attr.rawAssignment?.map (String.map f) }

def respelledAttributes (f : Char → Char) (attrs : Attributes) : Attributes :=
  attrs.map fun _ => respelledAttribute f

private theorem written?_respelled (f : Char → Char) (occ : Occurrence) :
    (respelled f occ).written? = occ.written?.map (List.map f) := by
  cases assigned : occ.assignment <;> simp [Occurrence.written?, respelled, respelledAssignment, assigned]

private theorem raw?_respelled (f : Char → Char) (occ : Occurrence) :
    (respelled f occ).raw? = occ.raw?.map (List.map f) := by
  cases assigned : occ.assignment <;> simp [Occurrence.raw?, respelled, respelledAssignment, assigned]

theorem stop_respelled (f : Char → Char) (occ : Occurrence) : (respelled f occ).stop = occ.stop := by
  have tail : ((respelled f occ).written?.getD []).length = (occ.written?.getD []).length := by
    rw [written?_respelled]
    cases occ.written? <;> simp
  simp only [Occurrence.stop, Occurrence.text, List.length_append, tail]
  simp [respelled]

private theorem takeWhile_respelled {p : Char → Bool} {f : Char → Char} (same : ∀ c, p (f c) = p c) (text : List Char) :
    (text.map f).takeWhile p = (text.takeWhile p).map f := by
  have blind : p ∘ f = p := funext same
  rw [List.takeWhile_map, blind]

theorem dropWhile_respelled {p : Char → Bool} {f : Char → Char} (same : ∀ c, p (f c) = p c) (text : List Char) :
    (text.map f).dropWhile p = (text.dropWhile p).map f := by
  have blind : p ∘ f = p := funext same
  rw [List.dropWhile_map, blind]

private theorem splitLast?_respelled {p : Char → Bool} {f : Char → Char} (same : ∀ c, p (f c) = p c)
    (text : List Char) :
    splitLast? p (text.map f) = (splitLast? p text).map (Prod.map (List.map f) (Prod.map f (List.map f))) := by
  induction text with
  | nil => rfl
  | cons c cs ih =>
    rw [List.map_cons, splitLast?, splitLast?, ih, same]
    cases splitLast? p cs with
    | some found => rfl
    | none => cases p c <;> rfl

private theorem mem_separators_of_quote {c : Char} (quote : (c == '"' || c == '\'') = true) : c ∈ separators := by
  rcases Bool.or_eq_true_iff.mp quote with double | single
  · rw [eq_of_beq double]
    decide
  · rw [eq_of_beq single]
    decide

section Scan

variable {f : Char → Char} (unseen : Unseen f)
include unseen

private theorem Unseen.beq {d : Char} (member : d ∈ separators) (c : Char) : (f c == d) = (c == d) := by
  rw [Bool.eq_iff_iff, beq_iff_eq, beq_iff_eq]
  exact unseen.separator c d member

theorem Unseen.fixed {d : Char} (member : d ∈ separators) : f d = d :=
  (unseen.separator d d member).mpr rfl

theorem Unseen.isQuote (c : Char) : (f c == '"' || f c == '\'') = (c == '"' || c == '\'') := by
  rw [unseen.beq (by decide), unseen.beq (by decide)]

private theorem Unseen.nameChar (c : Char) : isNameChar (f c) = isNameChar c := by
  rw [Bool.eq_iff_iff, isNameChar_iff, isNameChar_iff]
  apply not_congr
  constructor
  · intro member
    exact (unseen.separator c (f c) member).mp rfl ▸ member
  · intro member
    exact ((unseen.separator c c member).mpr rfl).symm ▸ member

theorem nameAt?_respelled (text : List Char) :
    nameAt? (text.map f) = (nameAt? text).map (Prod.map (List.map f) (Prod.map (List.map f) (List.map f))) := by
  simp only [nameAt?, takeWhile_respelled unseen.blank, dropWhile_respelled unseen.blank,
    takeWhile_respelled unseen.nameChar, dropWhile_respelled unseen.nameChar, splitLast?_respelled unseen.nameChar]
  cases (text.dropWhile isBlank).takeWhile isNameChar with
  | nil => cases splitLast? isNameChar (text.takeWhile isBlank) <;> simp
  | cons c name => rfl

private theorem quotedRaw?_respelled {quote : Char} (member : quote ∈ separators) (text : List Char) :
    quotedRaw? quote (text.map f) = (quotedRaw? quote text).map (Prod.map (List.map f) (List.map f)) := by
  have other (c : Char) : (f c != quote) = (c != quote) := by rw [bne, bne, unseen.beq member]
  rw [quotedRaw?, quotedRaw?, dropWhile_respelled other, takeWhile_respelled other]
  cases text.dropWhile (· != quote) with
  | nil => rfl
  | cons closing rest => simp [unseen.fixed member]

theorem rawAt_respelled (first : Char) (text : List Char) :
    rawAt (f first) (text.map f) = Prod.map (List.map f) (List.map f) (rawAt first text) := by
  have solid (c : Char) : (!isBlank (f c)) = !isBlank c := by rw [unseen.blank]
  have bare : bareRaw (f first :: text.map f) = Prod.map (List.map f) (List.map f) (bareRaw (first :: text)) := by
    rw [← List.map_cons, bareRaw, bareRaw, takeWhile_respelled solid, dropWhile_respelled solid]
    rfl
  rw [rawAt, rawAt, unseen.isQuote]
  split
  next quote =>
    have member := mem_separators_of_quote quote
    rw [unseen.fixed member] at bare ⊢
    rw [quotedRaw?_respelled unseen member]
    cases quotedRaw? first text with
    | none => exact bare
    | some found => rfl
  next => exact bare

theorem assignmentAt?_respelled (text : List Char) :
    assignmentAt? (text.map f) = (assignmentAt? text).map (Prod.map (respelledAssignment f) (List.map f)) := by
  have sign (c : Char) : f c = '=' ↔ c = '=' := unseen.separator c '=' (by decide)
  simp only [assignmentAt?, dropWhile_respelled unseen.blank, takeWhile_respelled unseen.blank]
  cases text.dropWhile isBlank with
  | nil => rfl
  | cons c rest =>
    by_cases same : c = '='
    · subst same
      have fixed : f '=' = '=' := (sign '=').mpr rfl
      rw [List.map_cons, fixed]
      simp only [dropWhile_respelled unseen.blank, takeWhile_respelled unseen.blank]
      cases rest.dropWhile isBlank with
      | nil => rfl
      | cons first more => simp [rawAt_respelled unseen, respelledAssignment, fixed]
    · have other : f c ≠ '=' := mt (sign c).mp same
      rw [List.map_cons]
      split
      next found => exact absurd (List.cons.inj found).1 other
      next =>
        split
        next found => exact absurd (List.cons.inj found).1 same
        next => rfl

theorem at?_respelled (start : Nat) (text : List Char) :
    at? start (text.map f) = (at? start text).map (Prod.map (respelled f) (List.map f)) := by
  simp only [at?, nameAt?_respelled unseen, Option.map_map]
  congr 1
  funext found
  obtain ⟨lead, name, rest⟩ := found
  simp only [Function.comp_apply, Prod.map_apply, assignmentAt?_respelled unseen]
  cases assignmentAt? rest <;> rfl

private theorem nextFrom?_respelled (offset : Nat) (text : List Char) :
    nextFrom? offset (text.map f) = (nextFrom? offset text).map (Prod.map (respelled f) (respelledCursor f)) := by
  induction text generalizing offset with
  | nil => rfl
  | cons c cs ih =>
    have here := at?_respelled unseen offset (c :: cs)
    rw [List.map_cons] at here ⊢
    rw [nextFrom?, nextFrom?, here]
    cases at? offset (c :: cs) with
    | some found => simp [respelledCursor, stop_respelled]
    | none => exact ih (offset + 1)

private theorem next?_respelled (cursor : Cursor) :
    (respelledCursor f cursor).next? = cursor.next?.map (Prod.map (respelled f) (respelledCursor f)) :=
  nextFrom?_respelled unseen cursor.offset cursor.rest

theorem remaining_respelled (cursor : Cursor) :
    (respelledCursor f cursor).remaining = cursor.remaining.map (respelled f) := by
  fun_induction Cursor.remaining cursor with
  | case1 cursor ended =>
    rw [Cursor.remaining_eq, next?_respelled unseen, ended]
    rfl
  | case2 cursor occ after found _ ih =>
    rw [Cursor.remaining_eq, next?_respelled unseen, found, List.map_cons, ← ih]
    rfl

theorem scan_respelled (text : List Char) : scan (text.map f) = (scan text).map (respelled f) :=
  remaining_respelled unseen (Cursor.ofText text)

private theorem enclosingQuote?_respelled (raw : List Char) : enclosingQuote? (raw.map f) = enclosingQuote? raw := by
  cases raw with
  | nil => rfl
  | cons first rest =>
    rw [List.map_cons, enclosingQuote?, enclosingQuote?, unseen.isQuote]
    cases quote : first == '"' || first == '\'' with
    | false => rfl
    | true =>
      have member := mem_separators_of_quote quote
      have last : ((rest.map f).getLast? == some first) = (rest.getLast? == some first) := by
        cases ending : rest.getLast? with
        | none => simp [List.getLast?_map, ending]
        | some c => simpa [List.getLast?_map, ending] using unseen.beq member c
      rw [unseen.fixed member, last]

theorem unquote_respelled (raw : List Char) : Text.unquote (raw.map f) = (Text.unquote raw).map f := by
  rw [Text.unquote, Text.unquote, enclosingQuote?_respelled unseen]
  cases enclosingQuote? raw with
  | none => rfl
  | some quote => rw [List.map_dropLast, List.map_tail]

theorem occurrences_respelled (tag : OpenTag) :
    (respelledTag f tag).occurrences = tag.occurrences.map (respelled f) := by
  have blank : isBlank ∘ f = isBlank := funext unseen.blank
  rw [OpenTag.occurrences, OpenTag.occurrences, OpenTag.nameLength?, OpenTag.nameLength?, respelledTag,
    String.toList_map, List.findIdx?_map, blank]
  cases tag.text.toList.findIdx? isBlank with
  | none => rfl
  | some length =>
    dsimp only
    rw [← List.map_drop]
    exact remaining_respelled unseen ⟨length, tag.text.toList.drop length⟩

end Scan

private theorem map_ofList_respelled (f : Char → Char) (text? : Option (List Char)) :
    (text?.map (List.map f)).map .ofList = (text?.map .ofList).map (String.map f) := by
  cases text? <;> simp [← String.toList_inj]

private theorem observe_respelled (f : Char → Char) (base : Int) (occ : Occurrence) (attr : Attribute) :
    (respelledAttribute f attr).observe base (respelled f occ) = respelledAttribute f (attr.observe base occ) := by
  have passes : (respelledAttribute f attr).passesOver (respelled f occ) = attr.passesOver occ := by
    simp [Attribute.passesOver, respelledAttribute, respelled]
  have takes : (respelledAttribute f attr).take base (respelled f occ) = respelledAttribute f (attr.take base occ) := by
    rw [Attribute.take, raw?_respelled, written?_respelled, map_ofList_respelled, map_ofList_respelled]
    cases assigned : occ.assignment <;>
      simp [Attribute.take, respelledAttribute, respelled, respelledAssignment, Occurrence.nameStart,
        Occurrence.valueStart?, assigned]
  rw [Attribute.observe, Attribute.observe, passes, takes]
  split <;> rfl

theorem shown_respelled (f : Char → Char) (base : Int) (occs : List Occurrence) (attr : Attribute) :
    shown base (occs.map (respelled f)) (respelledAttribute f attr) = respelledAttribute f (shown base occs attr) := by
  induction occs generalizing attr with
  | nil => rfl
  | cons occ occs ih =>
    simp only [shown, List.map_cons, List.foldl_cons, observe_respelled]
    exact ih _

section Tag

variable {f : Char → Char} (unseen : Unseen f) (keyed : ∀ occ, (respelled f occ).key = occ.key)
include unseen

private theorem fresh_respelled (key : String) (occ : Occurrence) :
    fresh key (respelled f occ) = respelledAttribute f (fresh key occ) := by
  have same : content ((respelled f occ).raw?.map .ofList) = (content (occ.raw?.map .ofList)).map f := by
    rw [raw?_respelled, map_ofList_respelled]
    cases occ.raw? with
    | none => simp [content, ← String.toList_inj]
    | some raw => simp [content, unquote, unquote_respelled unseen, ← String.toList_inj]
  rw [fresh, same]
  rfl

include keyed

theorem enter_respelled (attrs : Attributes) (occ : Occurrence) :
    OpenTag.enter (respelledAttributes f attrs) (respelled f occ) =
      respelledAttributes f (OpenTag.enter attrs occ) := by
  have keys : (respelledAttributes f attrs).keys = attrs.keys := attrs.keys_map _
  rw [enter_eq, enter_eq, keyed, keys, fresh_respelled unseen]
  split
  next => rfl
  next new =>
    have absent := (not_or.mp new).2
    have unheard : occ.key ∉ (respelledAttributes f attrs).keys := keys ▸ absent
    rw [Attributes.insert, dif_neg unheard, Attributes.insert, dif_neg absent]
    simp [respelledAttributes, Attributes.map]

private theorem foldl_enter_respelled (occs : List Occurrence) (attrs : Attributes) :
    (occs.map (respelled f)).foldl OpenTag.enter (respelledAttributes f attrs) =
      respelledAttributes f (occs.foldl OpenTag.enter attrs) := by
  induction occs generalizing attrs with
  | nil => rfl
  | cons occ occs ih => rw [List.map_cons, List.foldl_cons, List.foldl_cons, enter_respelled unseen keyed, ih]

theorem attributes_respelled (tag : OpenTag) :
    (respelledTag f tag).attributes = respelledAttributes f tag.attributes := by
  rw [OpenTag.attributes, occurrences_respelled unseen]
  exact foldl_enter_respelled unseen keyed tag.occurrences .empty

theorem occurrencesOf_respelled (tag : OpenTag) (key : String) :
    occurrencesOf (respelledTag f tag) key = (occurrencesOf tag key).map (respelled f) := by
  rw [occurrencesOf_eq, occurrencesOf_eq, occurrences_respelled unseen, List.filter_map]
  simp only [Function.comp_def, keyed]

theorem locate_respelled (attrs : Attributes) (tag : OpenTag) :
    (respelledAttributes f attrs).locate (respelledTag f tag) = respelledAttributes f (attrs.locate tag) := by
  simp only [locate_eq_map, respelledAttributes, Attributes.map_map, occurrencesOf_respelled unseen keyed,
    shown_respelled]
  rfl

end Tag

end TagLint.Proofs.Respelling
