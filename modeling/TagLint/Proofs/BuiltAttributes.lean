import TagLint.Proofs.SourceSpans

/-! Attributes built from their tag and then located in it. Building takes the value of the first occurrence of a key,
locating the place of the first that has a value, so the two may speak of different occurrences. -/

namespace TagLint.Proofs.BuiltAttributes
open Duplicates

/-- The keys of what a tag has after its name, as often as they are written there. -/
def writtenKeys (tag : OpenTag) : List String :=
  (tokenize (.ofList (tag.text.toList.dropWhile (!Text.isBlank ·)))).map fun token =>
    Text.lowered (.ofList (Text.trim token.name.toList))

def content (raw? : Option String) : String :=
  (raw?.map unquote).getD ""

theorem writtenKeys_eq (tag : OpenTag) : writtenKeys tag = tag.occurrences.map (·.key) := by
  rw [occurrences_eq, writtenKeys, tokenize, String.toList_ofList, List.map_map, List.map_map]
  apply List.map_congr_left
  intro occ _
  simp only [Function.comp, Occurrence.token, Text.lowered, String.toList_ofList]
  rfl

theorem occurrencesOf_eq (tag : OpenTag) (key : String) :
    occurrencesOf tag key = tag.occurrences.filter fun occ => occ.key == key && key != "" := by
  rw [occurrences_eq]
  rfl

/-- An attribute as it is built from its first occurrence. -/
def fresh (key : String) (occ : Occurrence) : Attribute :=
  { name := key, value? := some (content (occ.raw?.map .ofList)) }

theorem enter_eq (attrs : Attributes) (occ : Occurrence) : OpenTag.enter attrs occ =
    if occ.key = "" ∨ occ.key ∈ attrs.keys then attrs else attrs.insert occ.key (fresh occ.key occ) := by
  have same : (occ.key == "" || attrs.contains occ.key) = decide (occ.key = "" ∨ occ.key ∈ attrs.keys) := by
    rw [Bool.eq_iff_iff]
    simp [Attributes.contains]
  simp only [OpenTag.enter, same, decide_eq_true_eq, fresh, content, Option.map_map, Function.comp_def]

private theorem keys_enter (attrs : Attributes) (occ : Occurrence) : (OpenTag.enter attrs occ).keys =
    if occ.key = "" ∨ occ.key ∈ attrs.keys then attrs.keys else attrs.keys ++ [occ.key] := by
  rw [enter_eq]
  split
  next => rfl
  next new =>
    rw [Attributes.keys_insert, if_neg (not_or.mp new).2]

private theorem eraseDups_concat (words : List String) (word : String) :
    (words ++ [word]).eraseDups = if word ∈ words then words.eraseDups else words.eraseDups ++ [word] := by
  rw [List.eraseDups_append]
  split
  next old => simp [List.removeAll, old]
  next new => simp [List.removeAll, new, List.eraseDups_cons]

theorem keys_foldl_enter (occs : List Occurrence) :
    (occs.foldl OpenTag.enter .empty).keys = ((occs.map (·.key)).filter (· != "")).eraseDups := by
  induction occs using List.reverseRecOn with
  | nil => rfl
  | append_singleton occs occ ih =>
    rw [List.foldl_append, List.foldl_cons, List.foldl_nil, keys_enter, ih, List.map_append, List.filter_append]
    by_cases blank : occ.key = ""
    · simp [blank]
    · have solid : ([occ].map (·.key)).filter (· != "") = [occ.key] := by simp [blank]
      rw [solid, eraseDups_concat]
      simp only [blank, false_or, List.mem_eraseDups]

theorem first_of_mem_entries {occs : List Occurrence} {entry : String × Attribute}
    (member : entry ∈ (occs.foldl OpenTag.enter .empty).entries) :
    ∃ occ, (occs.filter fun occ => occ.key == entry.1 && entry.1 != "").head? = some occ ∧
      entry.2 = fresh entry.1 occ := by
  induction occs using List.reverseRecOn with
  | nil => contradiction
  | append_singleton occs occ ih =>
    rw [List.foldl_append, List.foldl_cons, List.foldl_nil, enter_eq] at member
    have earlier (among : entry ∈ (occs.foldl OpenTag.enter .empty).entries) :
        ∃ first, ((occs ++ [occ]).filter fun occ => occ.key == entry.1 && entry.1 != "").head? = some first ∧
          entry.2 = fresh entry.1 first := by
      obtain ⟨first, found, same⟩ := ih among
      refine ⟨first, ?_, same⟩
      rw [List.filter_append, List.head?_append, found, Option.some_or]
    split at member
    next => exact earlier member
    next new =>
      obtain ⟨solid, unheard⟩ := not_or.mp new
      simp only [Attributes.insert, unheard, dif_neg, not_false_eq_true, List.mem_append, List.mem_singleton] at member
      rcases member with before | rfl
      · exact earlier before
      · -- the key is new, so no occurrence before had it
        have unwritten : (occs.filter fun other => other.key == occ.key && occ.key != "") = [] := by
          apply List.filter_eq_nil_iff.mpr
          intro other among same
          apply unheard
          rw [keys_foldl_enter, List.mem_eraseDups, List.mem_filter]
          simp only [Bool.and_eq_true, beq_iff_eq] at same
          exact ⟨List.mem_map.mpr ⟨other, among, same.1⟩, same.2⟩
        refine ⟨occ, ?_, rfl⟩
        rw [List.filter_append, unwritten]
        simp [solid]

theorem mem_keys_attributes {tag : OpenTag} {key : String} :
    key ∈ tag.attributes.keys ↔ occurrencesOf tag key ≠ [] := by
  rw [OpenTag.attributes, keys_foldl_enter, List.mem_eraseDups, List.mem_filter, List.mem_map, occurrencesOf_eq, ne_eq,
    List.filter_eq_nil_iff]
  constructor
  · rintro ⟨⟨occ, member, rfl⟩, solid⟩ unwritten
    exact unwritten occ member (by simpa using solid)
  · intro written
    apply Classical.byContradiction
    intro absent
    apply written
    intro occ member same
    simp only [Bool.and_eq_true, beq_iff_eq] at same
    exact absent ⟨⟨occ, member, same.1⟩, same.2⟩

/-- The occurrence that locates a built attribute: the first that has a value, or the first where none has. -/
def locating (first : Occurrence) (occs : List Occurrence) : Occurrence :=
  (occs.find? (·.assignment.isSome)).getD first

/-- The attribute of a key in a tag where it is first written in `first`. -/
def placed (tag : OpenTag) (key : String) (first : Occurrence) : Attribute :=
  taken (tag.index + 1) (locating first (occurrencesOf tag key)) (fresh key first)

/-- What stands under a key once the attributes of a tag have been built and located in it. -/
theorem get?_located (tag : OpenTag) (key : String) :
    (tag.attributes.locate tag).get? key = (occurrencesOf tag key).head?.map (placed tag key) := by
  have keys : (tag.attributes.locate tag).keys = tag.attributes.keys := by
    rw [locate_eq_map, Attributes.keys_map]
  cases occs : occurrencesOf tag key with
  | nil =>
    apply Attributes.get?_eq_none_iff.mpr
    rw [keys, mem_keys_attributes, occs]
    exact fun absurd => absurd rfl
  | cons first rest =>
    have present : key ∈ tag.attributes.keys := mem_keys_attributes.mpr (by simp [occs])
    obtain ⟨⟨other, built⟩, member, same⟩ := List.mem_map.mp present
    obtain rfl : other = key := same
    obtain ⟨occ, found, same⟩ := first_of_mem_entries member
    obtain rfl : built = fresh other occ := same
    rw [← occurrencesOf_eq, occs] at found
    obtain rfl : first = occ := Option.some.inj found
    have law := (settle_resolves (tag.index + 1) (first :: rest) (fresh other first)).fresh rfl rfl
    have chosen : ((first :: rest).find? (·.assignment.isSome) <|> (first :: rest).head?) =
        some (locating first (first :: rest)) := by
      rw [locating]
      cases (first :: rest).find? (·.assignment.isSome) <;> rfl
    rw [chosen] at law
    apply Attributes.get?_eq_some_iff.mpr
    rw [locate_eq_map]
    refine List.mem_map.mpr ⟨_, member, Prod.ext rfl ?_⟩
    change (shown (tag.index + 1) (occurrencesOf tag other) (fresh other first)).settle = placed tag other first
    rw [placed, occs]
    exact law

/-- A key whose first occurrence has no value, and whose first value after it is not empty. -/
def Overtaken (occs : List Occurrence) : Prop :=
  ∃ first rest later assignment, occs = first :: rest ∧ first.assignment = none ∧
    rest.find? (·.assignment.isSome) = some later ∧ later.assignment = some assignment ∧
    unquote (.ofList assignment.raw) ≠ ""

/-- What stands in an attribute that was built from a tag and located in it. -/
structure Agrees (occs : List Occurrence) (attr : Attribute) : Prop where
  placed : ∃ nameIndex valueIndex, attr.nameIndex? = some nameIndex ∧ attr.valueIndex? = some valueIndex ∧
    (valueIndex = nameIndex ↔ attr.rawValue? = none) ∧ (attr.rawValue? ≠ none → nameIndex < valueIndex)
  value : attr.value? = some (content attr.rawValue?) ↔ ¬ Overtaken occs
  overtaken : Overtaken occs → attr.value? = some ""

private theorem taken_placed (base : Int) {occ : Occurrence} (attr : Attribute) (named : occ.name ≠ []) :
    ∃ nameIndex valueIndex, (taken base occ attr).nameIndex? = some nameIndex ∧
      (taken base occ attr).valueIndex? = some valueIndex ∧
      (valueIndex = nameIndex ↔ (taken base occ attr).rawValue? = none) ∧
      ((taken base occ attr).rawValue? ≠ none → nameIndex < valueIndex) := by
  have positive := List.length_pos_iff.mpr named
  cases assigned : occ.assignment with
  | none => simp [taken, assigned]
  | some assignment =>
    simp only [taken, assigned]
    refine ⟨_, _, rfl, rfl, ?_, ?_⟩
    · simp only [reduceCtorEq, iff_false]
      omega
    · intro _
      omega

theorem taken_rawValue (base : Int) (occ : Occurrence) (attr : Attribute) :
    (taken base occ attr).rawValue? = occ.raw?.map .ofList := by
  cases assigned : occ.assignment <;> simp [taken, assigned, Occurrence.raw?]

theorem taken_valueIndex? (base : Int) (occ : Occurrence) (attr : Attribute) :
    (taken base occ attr).valueIndex? = some (base + (occ.valueStart?.getD occ.nameStart)) := by
  cases assigned : occ.assignment with
  | none => simp [taken, assigned, Occurrence.valueStart?, Occurrence.nameStart]
  | some assignment =>
    simp only [taken, assigned, Occurrence.valueStart?, Occurrence.nameStart, Option.map_some, Option.getD_some]
    congr 1
    omega

private theorem locating_raw? {first : Occurrence} {occs : List Occurrence} (begins : occs.head? = some first) :
    (locating first occs).raw? = (occs.find? (·.assignment.isSome)).bind (·.raw?) := by
  rw [locating]
  cases valued : occs.find? (·.assignment.isSome) with
  | some occ => rfl
  | none =>
    have bare := List.find?_eq_none.mp valued first (List.mem_of_head? begins)
    cases assigned : first.assignment with
    | none => simp [Occurrence.raw?, assigned]
    | some assignment => simp [assigned] at bare

theorem placed_name (tag : OpenTag) (key : String) (first : Occurrence) : (placed tag key first).name = key := by
  rw [placed, taken]
  split <;> rfl

/-- The value as written is the first that is written. -/
theorem placed_rawValue? {tag : OpenTag} {key : String} {first : Occurrence}
    (begins : (occurrencesOf tag key).head? = some first) : (placed tag key first).rawValue? =
      (((occurrencesOf tag key).find? (·.assignment.isSome)).bind (·.raw?)).map .ofList := by
  rw [placed, taken_rawValue, locating_raw? begins]

/-- The content is that of the first occurrence, which has none where it has no value. -/
theorem placed_content (tag : OpenTag) (key : String) (first : Occurrence) :
    ((placed tag key first).value?.getD "").toList = (first.raw?.map Text.unquote).getD [] := by
  have kept : (placed tag key first).value? = (fresh key first).value? := by
    rw [placed, taken]
    split <;> rfl
  rw [kept]
  cases written : first.raw? <;> simp [fresh, content, unquote, written]

/-- The occurrence that locates an attribute, and when its content is that of the first. -/
theorem chosen_content (first : Occurrence) (rest : List Occurrence) :
    ∃ occ ∈ first :: rest,
      ((first :: rest).find? (·.assignment.isSome) <|> (first :: rest).head?) = some occ ∧
      (content (first.raw?.map .ofList) = content (occ.raw?.map .ofList) ↔ ¬ Overtaken (first :: rest)) := by
  cases assigned : first.assignment with
  | some assignment =>
    refine ⟨first, List.mem_cons_self, by simp [assigned], iff_of_true rfl ?_⟩
    rintro ⟨_, _, _, _, same, bare, -⟩
    obtain ⟨rfl, -⟩ := List.cons.inj same
    rw [assigned] at bare
    contradiction
  | none =>
    cases found : rest.find? (·.assignment.isSome) with
    | none =>
      refine ⟨first, List.mem_cons_self, by simp [assigned, found], iff_of_true rfl ?_⟩
      rintro ⟨_, _, _, _, same, -, later, -⟩
      obtain ⟨-, rfl⟩ := List.cons.inj same
      rw [found] at later
      contradiction
    | some later =>
      refine ⟨later, List.mem_cons_of_mem _ (List.mem_of_find?_eq_some found), by simp [assigned, found], ?_⟩
      have valued : later.assignment.isSome = true := by simpa using List.find?_some found
      obtain ⟨assignment, given⟩ := Option.isSome_iff_exists.mp valued
      have empty : content (first.raw?.map .ofList) = "" := by simp [content, Occurrence.raw?, assigned]
      have raw : content (later.raw?.map .ofList) = unquote (.ofList assignment.raw) := by
        simp [content, Occurrence.raw?, given]
      rw [empty, raw]
      constructor
      · rintro same ⟨_, _, _, _, items, -, other, written, solid⟩
        obtain ⟨-, rfl⟩ := List.cons.inj items
        rw [found] at other
        cases other
        rw [given] at written
        cases written
        exact solid same.symm
      · intro free
        apply Classical.byContradiction
        intro solid
        exact free ⟨first, rest, later, assignment, rfl, assigned, found, given, Ne.symm solid⟩

private theorem located_agrees {base : Int} {key : String} {first : Occurrence} {rest : List Occurrence}
    {attr : Attribute} (resolved : Resolved base (first :: rest) (fresh key first) attr)
    (named : ∀ occ ∈ first :: rest, occ.name ≠ []) : Agrees (first :: rest) attr := by
  obtain ⟨occ, member, chosen, same⟩ := chosen_content first rest
  have law : attr = taken base occ (fresh key first) := by
    have law := resolved.fresh rfl rfl
    rwa [chosen] at law
  have value : attr.value? = some (content (first.raw?.map .ofList)) := resolved.value
  constructor
  case placed =>
    rw [law]
    exact taken_placed base _ (named occ member)
  case value => rw [value, law, taken_rawValue, Option.some.injEq, same]
  case overtaken =>
    rintro ⟨_, _, _, _, items, bare, -⟩
    obtain ⟨rfl, -⟩ := List.cons.inj items
    simp [value, content, Occurrence.raw?, bare]

/-- Every key of a tag is built, once and in order, and every attribute that is built is located. Its value is the
content of the raw text it is located by, unless a later value has overtaken an occurrence without one. -/
theorem built_attributes_are_located (tag : OpenTag) :
    tag.attributes.keys = ((writtenKeys tag).filter (· != "")).eraseDups ∧
    (tag.attributes.locate tag).entries.map (fun entry => (entry.1, entry.2.value?)) =
      tag.attributes.entries.map (fun entry => (entry.1, entry.2.value?)) ∧
    ∀ entry ∈ (tag.attributes.locate tag).entries, Agrees (occurrencesOf tag entry.1) entry.2 := by
  refine ⟨?_, ?_, ?_⟩
  · rw [writtenKeys_eq]
    exact keys_foldl_enter tag.occurrences
  · rw [locate_eq_map, Attributes.map, List.map_map]
    apply List.map_congr_left
    intro entry _
    exact congrArg (Prod.mk entry.1) (shown_keeps _ _ _).2
  · intro entry member
    rw [locate_eq_map, Attributes.map, List.mem_map] at member
    obtain ⟨⟨key, attr⟩, among, rfl⟩ := member
    obtain ⟨first, found, same⟩ := first_of_mem_entries among
    dsimp only at found same ⊢
    subst same
    have resolved := settle_resolves (tag.index + 1) (occurrencesOf tag key) (fresh key first)
    rw [← occurrencesOf_eq] at found
    obtain ⟨rest, occs⟩ := List.head?_eq_some_iff.mp found
    have named : ∀ occ ∈ occurrencesOf tag key, occ.name ≠ [] := by
      intro occ member
      obtain ⟨c, more, begins, -⟩ := (SourceSpans.stands_in_tag member).1.begins
      simp [begins]
    rw [occs] at resolved named ⊢
    exact located_agrees resolved named

example :
    let tag : OpenTag := ⟨"img alt Src=y ALT='x'", 0⟩
    (tag.attributes.locate tag).entries.map (fun entry => (entry.1, entry.2.value?, entry.2.rawValue?)) =
      [("alt", some "", some "'x'"), ("src", some "y", some "y")] := by
  decide +kernel

end TagLint.Proofs.BuiltAttributes
