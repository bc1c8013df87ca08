import TagLint.Proofs.BuiltInRules
import TagLint.Proofs.SourceLines

/-! Where the issues of the built-in rules point. Each has an offset in the tag that it is about, at the value or the
name that is wrong or at the `<` of the tag, and the line and the column of that offset. -/

namespace TagLint.Proofs.Diagnostics
open PassPlans Agendas KeyedRuns Duplicates BuiltAttributes BuiltInRules SourceLines

/-- The `<` of a tag stands at its offset in the source, and its text follows. -/
def StandsIn (source : List Char) (tag : OpenTag) : Prop :=
  ∃ place : Nat, tag.index = place ∧ '<' :: tag.text.toList <+: source.drop place

structure Inside (tag : OpenTag) (place : Nat) : Prop where
  after : tag.index ≤ place
  before : place ≤ tag.index + tag.text.length

/-- The value of an occurrence is written at a place of the source. -/
structure ValueAt (source : List Char) (tag : OpenTag) (occ : Occurrence) (raw : List Char) (place : Nat) : Prop where
  written : occ.raw? = some raw
  solid : raw ≠ []
  start : ∃ start, occ.valueStart? = some start ∧ tag.index + 1 + start = place
  found : raw <+: source.drop place

structure NameAt (source : List Char) (tag : OpenTag) (occ : Occurrence) (place : Nat) : Prop where
  solid : occ.name ≠ []
  start : tag.index + 1 + occ.nameStart = place
  found : occ.name <+: source.drop place

/-- A value of the attribute begins at the place or, where it has no value at all, its name. -/
inductive BeginsAt (source : List Char) (tag : OpenTag) (key : String) (place : Nat) : Prop
  | value {occ : Occurrence} {raw : List Char} : occ ∈ occurrencesOf tag key → ValueAt source tag occ raw place →
      BeginsAt source tag key place
  | name {occ : Occurrence} : occ ∈ occurrencesOf tag key → (∀ other ∈ occurrencesOf tag key, other.raw? = none) →
      NameAt source tag occ place → BeginsAt source tag key place

/-- What stands at the place that an issue marks. -/
inductive Marks (source : List Char) (tag : OpenTag) (issue : Issue) (place : Nat) : Prop
  | quotes {key : String} {occ : Occurrence} {raw : List Char} : issue.rule = "attr-quote-style" →
      issue.data.lookup "attribute" = some (.text key) →
      (occurrencesOf tag key).find? (·.assignment.isSome) = some occ → ValueAt source tag occ raw place →
      ¬ DoubleQuoted raw → Marks source tag issue place
  | id : issue.rule = "id-no-whitespace" → BeginsAt source tag "id" place → Marks source tag issue place
  | classes : issue.rule = "class-no-dup" → BeginsAt source tag "class" place → Marks source tag issue place
  | tag : issue.rule = "img-req-alt" ∨ issue.rule = "tag-self-close" → source[place]? = some '<' →
      Marks source tag issue place

structure Points (source : List Char) (tag : OpenTag) (issue : Issue) (place : Nat) : Prop where
  index : issue.index? = some (place : Int)
  inside : Inside tag place
  marks : Marks source tag issue place

private theorem raw_ne_nil_of_mem {tag : OpenTag} {key : String} {occ : Occurrence} {assignment : Assignment}
    (member : occ ∈ occurrencesOf tag key) (given : occ.assignment = some assignment) : assignment.raw ≠ [] := by
  simp only [occurrencesOf, List.mem_filter, List.mem_map] at member
  obtain ⟨⟨found, scanned, rfl⟩, -⟩ := member
  exact (ScanForm.written_of_mem_scan scanned).raw_ne_nil given

section Tag

variable {source : List Char} {tag : OpenTag} {key : String} {occ first : Occurrence}

/-- What is found in the text of a tag is found behind its `<`. -/
theorem found_behind {place offset : Nat} {piece : List Char} (stands : '<' :: tag.text.toList <+: source.drop place)
    (found : piece <+: tag.text.toList.drop offset) : piece <+: source.drop (place + 1 + offset) := by
  have behind := stands.drop (offset + 1)
  rw [List.drop_succ_cons, List.drop_drop] at behind
  rw [Nat.add_assoc, Nat.add_comm 1]
  exact found.trans behind

/-- Where the value of an occurrence begins in the source. -/
theorem valueAt_of_mem (stands : StandsIn source tag) (member : occ ∈ occurrencesOf tag key)
    (valued : occ.assignment.isSome = true) : ∃ raw place, ValueAt source tag occ raw place ∧ Inside tag place := by
  obtain ⟨assignment, given⟩ := Option.isSome_iff_exists.mp valued
  obtain ⟨place, offset, text⟩ := stands
  have assigned := (SourceSpans.stands_in_tag member).1.assigned assignment given
  have begins : assignment.raw <+: tag.text.toList.drop (occ.nameStart + occ.name.length + assignment.link.length) := by
    have behind := assigned.found.drop assignment.link.length
    rwa [List.drop_left, List.drop_drop] at behind
  have solid := raw_ne_nil_of_mem member given
  have positive := List.length_pos_iff.mpr solid
  have inside := assigned.inside
  rw [String.length_toList] at inside
  refine ⟨assignment.raw, place + 1 + (occ.nameStart + occ.name.length + assignment.link.length), ?_, ?_⟩
  · constructor
    case written => simp [Occurrence.raw?, given]
    case solid => exact solid
    case start =>
      refine ⟨occ.nameStart + occ.name.length + assignment.link.length, ?_, by omega⟩
      simp [Occurrence.valueStart?, given]
    case found => exact found_behind text begins
  · constructor <;> omega

private theorem nameAt_of_mem (stands : StandsIn source tag) (member : occ ∈ occurrencesOf tag key) :
    ∃ place, NameAt source tag occ place ∧ Inside tag place := by
  obtain ⟨place, offset, text⟩ := stands
  have here := (SourceSpans.stands_in_tag member).1
  obtain ⟨c, more, begins, -⟩ := here.begins
  have positive : 0 < occ.name.length := by simp [begins]
  have inside := here.inside
  rw [String.length_toList] at inside
  refine ⟨place + 1 + occ.nameStart, ?_, ?_⟩
  · constructor
    case solid => exact List.length_pos_iff.mp positive
    case start => omega
    case found => exact found_behind text here.found
  · constructor <;> omega

private theorem placed_at_value (stands : StandsIn source tag) (first : Occurrence)
    (valued : (occurrencesOf tag key).find? (·.assignment.isSome) = some occ) :
    ∃ raw, ∃ place : Nat, (placed tag key first).valueIndex? = some (place : Int) ∧ ValueAt source tag occ raw place ∧
      Inside tag place := by
  have member := List.mem_of_find?_eq_some valued
  obtain ⟨raw, place, value, inside⟩ := valueAt_of_mem stands member (by simpa using List.find?_some valued)
  refine ⟨raw, place, ?_, value, inside⟩
  obtain ⟨start, found, same⟩ := value.start
  rw [placed, taken_valueIndex?, locating, valued, Option.getD_some, found, Option.getD_some, same]

private theorem placed_begins (stands : StandsIn source tag) (begins : (occurrencesOf tag key).head? = some first) :
    ∃ place : Nat, (placed tag key first).valueIndex? = some (place : Int) ∧ BeginsAt source tag key place ∧
      Inside tag place := by
  cases valued : (occurrencesOf tag key).find? (·.assignment.isSome) with
  | some occ =>
    obtain ⟨raw, place, index, value, inside⟩ := placed_at_value stands first valued
    exact ⟨place, index, .value (List.mem_of_find?_eq_some valued) value, inside⟩
  | none =>
    have bare : ∀ other ∈ occurrencesOf tag key, other.assignment = none := by
      simpa using List.find?_eq_none.mp valued
    have member := List.mem_of_head? begins
    obtain ⟨place, name, inside⟩ := nameAt_of_mem stands member
    refine ⟨place, ?_, .name member (fun other among => by simp [Occurrence.raw?, bare other among]) name, inside⟩
    have unvalued : first.valueStart? = none := by simp [Occurrence.valueStart?, bare first member]
    rw [placed, taken_valueIndex?, locating, valued, Option.getD_none, unvalued, Option.getD_none, name.start]

end Tag

section Node

variable {source : List Char} {node : Node} {options : Datum} {call : Invocation} {issue : Issue}

private theorem points_at_tag (stands : StandsIn source node.openTag) (index : issue.index? = some node.openTag.index)
    (rule : issue.rule = "img-req-alt" ∨ issue.rule = "tag-self-close") :
    ∃ place : Nat, Points source node.openTag issue place := by
  obtain ⟨place, offset, text⟩ := stands
  obtain ⟨after, whole⟩ := text
  refine ⟨place, index.trans (congrArg some offset), ⟨by omega, by omega⟩, .tag rule ?_⟩
  rw [← List.head?_drop, ← whole]
  rfl

private theorem located_begins (built : Built node) (element : node.isElement = true)
    (stands : StandsIn source node.openTag)
    {key : String} {attr : Attribute} (found : (opened node).attributes.get? key = some attr) :
    ∃ place : Nat, attr.valueIndex? = some (place : Int) ∧ BeginsAt source node.openTag key place ∧
      Inside node.openTag place := by
  rw [get?_opened built element] at found
  obtain ⟨first, begins, rfl⟩ := Option.map_eq_some_iff.mp found
  exact placed_begins stands begins

private theorem points_at_unquoted (built : Built node) (element : node.isElement = true)
    (stands : StandsIn source node.openTag) {key : String} {attr : Attribute}
    (found : (opened node).attributes.get? key = some attr)
    (member : issue ∈ Invocation.issues ⟨.quoteStyle .double, .attr attr, options⟩) :
    ∃ place : Nat, Points source node.openTag issue place := by
  rw [get?_opened built element] at found
  obtain ⟨first, begins, rfl⟩ := Option.map_eq_some_iff.mp found
  obtain ⟨rule, index, data, raw, written, unquoted⟩ := (answers_quoteStyle ..).each issue member
  rw [placed_name] at data
  rw [placed_rawValue? begins] at written
  obtain ⟨chars, given, rfl⟩ := Option.map_eq_some_iff.mp written
  obtain ⟨occ, valued, given⟩ := Option.bind_eq_some_iff.mp given
  obtain ⟨other, place, there, value, inside⟩ := placed_at_value stands first valued
  obtain rfl : other = chars := Option.some.inj (value.written.symm.trans given)
  rw [String.toList_ofList] at unquoted
  exact ⟨place, index.trans there, inside, .quotes rule data valued value unquoted⟩

theorem points_of_asked (built : Built node) (element : node.isElement = true) (stands : StandsIn source node.openTag)
    (asked : Asked options [] node call) (member : issue ∈ call.issues) :
    ∃ place : Nat, Points source node.openTag issue place := by
  cases asked with
  | quotes found => exact points_at_unquoted built element stands found member
  | id found =>
    obtain ⟨rule, index⟩ := (answers_idNoWhitespace ..).each issue member
    obtain ⟨place, there, here, inside⟩ := located_begins built element stands found
    exact ⟨place, index.trans there, inside, .id rule here⟩
  | tag type among =>
    have same : (opened node).openTag.index = node.openTag.index := by rw [built.opened element]
    simp only [tagRules, List.mem_cons, List.not_mem_nil, or_false] at among
    rcases among with rfl | rfl | rfl
    · obtain ⟨rule, attr, found, index⟩ := (answers_classNoDup ..).each issue member
      obtain ⟨place, there, here, inside⟩ := located_begins built element stands found
      exact ⟨place, index.trans there, inside, .classes rule here⟩
    · obtain ⟨rule, index⟩ := (answers_imgReqAlt ..).each issue member
      exact points_at_tag stands (index.trans (congrArg some same)) (.inl rule)
    · obtain ⟨rule, index⟩ := (answers_selfClose ..).each issue member
      exact points_at_tag stands (index.trans (congrArg some same)) (.inr rule)

end Node

theorem Points.located {text : List Char} {tag : OpenTag} {issue : Issue} {place : Nat}
    (points : Points text tag issue place) (map : SourceMap) : Points text tag (map.locate issue) place := by
  obtain ⟨index, inside, marks⟩ := points
  rw [SourceMap.locate, index]
  refine ⟨index, inside, ?_⟩
  cases marks with
  | quotes rule data valued value unquoted => exact .quotes rule data valued value unquoted
  | id rule begins => exact .id rule begins
  | classes rule begins => exact .classes rule begins
  | tag rule opened => exact .tag rule opened

private theorem clamp_eq {source : String} {place : Nat} (inside : place ≤ source.length) :
    (SourceMap.ofText source).clamp place = place := by
  change (min (place : Int) source.length).toNat = place
  omega

private theorem position?_located {source : String} {issue : Issue} {place : Nat}
    (index : issue.index? = some (place : Int)) (inside : place ≤ source.length) : ∃ position,
      ((SourceMap.ofText source).locate issue).position? = some position ∧ LiesAt source.toList place position := by
  refine ⟨(SourceMap.ofText source).position place, ?_, ?_⟩
  · rw [SourceMap.locate, index]
    rfl
  · have lies := position_liesAt source place
    rwa [clamp_eq inside] at lies

private theorem length_of_stands {source : List Char} {tag : OpenTag} {place : Nat} (stands : StandsIn source tag)
    (inside : Inside tag place) : place ≤ source.length := by
  obtain ⟨start, offset, text⟩ := stands
  have before := inside.before
  have short := text.length_le
  rw [List.length_cons, List.length_drop, String.length_toList] at short
  omega

/-- Every issue of the built-in rules is about an element and points into its opening tag. -/
theorem default_issues_point_into_tags {n : Nat} {request : Request} {source : String}
    (given : request.source? = some source) {forest : List (Tree (Fin n))} {nodes : Vector Node n}
    (placed : ∀ i ∈ Tree.preorderAll forest, (nodes.get i).isElement = true →
      Built (nodes.get i) ∧ StandsIn source.toList (nodes.get i).openTag) :
    ∃ found, Reports Linter.default request forest nodes found ∧
      ∀ i ∈ Tree.preorderAll forest, ∀ issue ∈ found i, (nodes.get i).isElement = true ∧
        ∃ place : Nat, Points source.toList (nodes.get i).openTag issue place ∧
          ∃ position, issue.position? = some position ∧ LiesAt source.toList place position := by
  have steady : ∀ i ∈ Tree.preorderAll forest, Steady (nodes.get i) := fun i member element =>
    (placed i member element).1.keyed
  refine ⟨_, reports_default request steady, ?_⟩
  intro i member issue reported
  rw [given] at reported
  obtain ⟨unplaced, among, rfl⟩ := List.mem_map.mp reported
  obtain ⟨call, due, answered⟩ := List.mem_flatMap.mp among
  obtain ⟨element, asked⟩ := (mem_agenda_default (steady i member)).mp due
  obtain ⟨built, stands⟩ := placed i member element
  obtain ⟨place, points⟩ := points_of_asked built element stands asked answered
  have inside := length_of_stands stands points.inside
  rw [String.length_toList] at inside
  exact ⟨element, place, points.located _, position?_located points.index inside⟩

def draft : Vector Node 3 :=
  #v[RepeatedRuns.element "p" ⟨"p\n class='a  a' ID", 0⟩, { type := .text, data? := some "\n" },
    RepeatedRuns.element "img" ⟨"img id Id=\"\" src=x", 21⟩]

theorem draft_issues_point_into_tags :
    let source := "<p\n class='a  a' ID>\n<img id Id=\"\" src=x>"
    let request : Request := { source? := some source }
    let forest : List (Tree (Fin 3)) := [.node 0 [.node 1 [], .node 2 []]]
    (∃ found, Reports Linter.default request forest draft found ∧ ∀ i ∈ Tree.preorderAll forest, ∀ issue ∈ found i,
      (draft.get i).isElement = true ∧ ∃ place : Nat, Points source.toList (draft.get i).openTag issue place ∧
        ∃ position, issue.position? = some position ∧ LiesAt source.toList place position) ∧
      (Linter.default.lint request forest draft).result.toOption.map (·.map fun issue =>
        (issue.rule, issue.index?, issue.position?)) =
          some [("attr-quote-style", some 10, some ⟨2, 8⟩), ("id-no-whitespace", some 17, some ⟨2, 15⟩),
            ("class-no-dup", some 10, some ⟨2, 8⟩), ("id-no-whitespace", some 32, some ⟨3, 12⟩),
            ("attr-quote-style", some 39, some ⟨3, 19⟩), ("img-req-alt", some 21, some ⟨3, 1⟩),
            ("tag-self-close", some 21, some ⟨3, 1⟩)] := by
  intro source request forest
  refine ⟨default_issues_point_into_tags rfl ?_, by decide +kernel⟩
  intro i _ _
  match i with
  | 0 => exact ⟨⟨rfl, rfl⟩, 0, rfl, by decide +kernel⟩
  | 2 => exact ⟨⟨rfl, rfl⟩, 21, rfl, by decide +kernel⟩

end TagLint.Proofs.Diagnostics
