import Mathlib.Data.List.DropRight
import TagLint.Proofs.BuiltInRules
import TagLint.Proofs.Shifts
import TagLint.Proofs.SourceLines

/-! A document that is put behind some text. Its tags stand further on by the length of that text, and so does all that is
found about them; what is found stays the same. -/

namespace TagLint.Proofs.Embedding
open PassPlans Agendas Branches RepeatedRuns BuiltInRules Shifts SourceLines

section Lines

variable {before source : List Char} {place : Nat}

/-- What stands behind the last newline of a text. -/
def lastLine (text : List Char) : List Char :=
  text.rtakeWhile (· != '\n')

/-- Where a position comes to lie when `before` is put in front of the text that it lies in. -/
def pushed (before : List Char) (position : Position) : Position where
  line := position.line + before.count '\n'
  column := if position.line = 1 then position.column + (lastLine before).length else position.column

private theorem lineBegins_behind {start : Nat} (begins : LineBegins source place start) (later : start ≠ 0) :
    LineBegins (before ++ source) (before.length + place) (before.length + start) := by
  constructor
  case before => exact Nat.add_le_add_left begins.before _
  case first =>
    obtain ⟨newline, same, found⟩ := begins.first.resolve_left later
    refine .inr ⟨before.length + newline, by omega, ?_⟩
    rwa [List.getElem?_append_right (by omega), Nat.add_sub_cancel_left]
  case within =>
    intro between after inside
    rw [List.getElem?_append_right (by omega)]
    exact begins.within _ (by omega) (by omega)

/-- A line that is cut off in front goes on with the first line of what follows. -/
theorem lineBegins_of_first (clear : '\n' ∉ source.take place) :
    LineBegins (before ++ source) (before.length + place) (before.length - (lastLine before).length) := by
  have halves : before.rdropWhile (· != '\n') ++ lastLine before = before := List.rdropWhile_append_rtakeWhile
  have length := congrArg List.length halves
  rw [List.length_append] at length
  have front : before.length - (lastLine before).length = (before.rdropWhile (· != '\n')).length := by omega
  have text : before ++ source = before.rdropWhile (· != '\n') ++ (lastLine before ++ source) := by
    rw [← List.append_assoc, halves]
  rw [front, text]
  constructor
  case before => omega
  case first =>
    by_cases empty : before.rdropWhile (· != '\n') = []
    · exact .inl (by rw [empty, List.length_nil])
    · right
      have last := List.rdropWhile_last_not (· != '\n') before empty
      have positive := List.length_pos_iff.mpr empty
      refine ⟨(before.rdropWhile (· != '\n')).length - 1, by omega, ?_⟩
      rw [List.getElem?_append_left (by omega), ← List.getLast?_eq_getElem?, List.getLast?_eq_some_getLast empty]
      simpa using last
  case within =>
    intro between after inside newline
    rw [List.getElem?_append_right after] at newline
    have member : '\n' ∈ (lastLine before ++ source).take ((lastLine before).length + place) := by
      have inside : between - (before.rdropWhile (· != '\n')).length < (lastLine before).length + place := by omega
      rw [← List.getElem?_take_of_lt inside] at newline
      exact List.mem_of_getElem? newline
    rw [List.take_length_add_append, List.mem_append] at member
    rcases member with cut | first
    · have := List.mem_rtakeWhile_imp cut
      contradiction
    · exact clear first

theorem liesAt_behind {position : Position} (lies : LiesAt source place position) :
    LiesAt (before ++ source) (before.length + place) (pushed before position) := by
  obtain ⟨line, start, begins, column⟩ := lies
  constructor
  case line =>
    rw [List.take_length_add_append, List.count_append, pushed]
    dsimp only
    omega
  case column =>
    by_cases first : '\n' ∈ source.take place
    · have counted := List.count_pos_iff.mpr first
      have later : start ≠ 0 := by
        rintro rfl
        obtain ⟨between, inside, newline⟩ := List.mem_take_iff_getElem.mp first
        exact begins.within between (Nat.zero_le _) (by omega) (List.getElem?_eq_some_iff.mpr ⟨by omega, newline⟩)
      refine ⟨before.length + start, lineBegins_behind begins later, ?_⟩
      rw [pushed]
      dsimp only
      rw [if_neg (by omega), column]
      omega
    · have counted := List.count_eq_zero.mpr first
      have zero : start = 0 := by
        rcases begins.first with zero | ⟨newline, same, found⟩
        · exact zero
        · refine absurd (List.mem_take_iff_getElem.mpr ?_) first
          obtain ⟨inside, found⟩ := List.getElem?_eq_some_iff.mp found
          have := begins.before
          exact ⟨newline, by omega, found⟩
      have short : (lastLine before).length ≤ before.length := (List.rtakeWhile_suffix ..).length_le
      refine ⟨_, lineBegins_of_first first, ?_⟩
      rw [pushed]
      dsimp only
      rw [if_pos (by omega), column, zero]
      omega

end Lines

/-- The line grows by the newlines in front, and a column of the first line by what stands behind the last of them. -/
theorem position_behind (before source : String) {index : Int} (forward : 0 ≤ index) :
    (SourceMap.ofText (before ++ source)).position (index + before.length) =
      pushed before.toList ((SourceMap.ofText source).position index) := by
  have clamped : (SourceMap.ofText (before ++ source)).clamp (index + before.length) =
      before.toList.length + (SourceMap.ofText source).clamp index := by
    change (min (index + before.length) ((before ++ source).length : Int)).toNat =
      before.toList.length + (min index (source.length : Int)).toNat
    rw [String.length_append, String.length_toList]
    omega
  have lies := position_liesAt (before ++ source) (index + before.length)
  rw [clamped, String.toList_append] at lies
  exact lies.unique (liesAt_behind (position_liesAt source index))

def shiftIssue (distance : Int) (issue : Issue) : Issue :=
  { issue with index? := issue.index?.map (· + distance) }

section Rules

variable {options : Datum} {call : Invocation}

/-- The built-in rules say the same of what is shifted, and point where it is shifted to. -/
theorem answer_shift (distance : Int) (asked : Question options call) :
    (shiftCall distance call).answer = call.answer.map (·.map (shiftIssue distance)) := by
  cases asked with
  | quotes attr =>
    simp only [Invocation.answer, shiftCall, shiftTarget, shiftAttribute, Rule.quoteStyle]
    cases attr.rawValue? with
    | none => rfl
    | some raw =>
      cases accepted : QuoteStyle.double.accepts raw with
      | true => simp [accepted, Except.map]
      | false => simp [accepted, Except.map, shiftIssue, Profile.issue]
  | id attr =>
    simp only [Invocation.answer, shiftCall, shiftTarget, shiftAttribute, Rule.idNoWhitespace]
    split
    · rfl
    · split <;> rfl
  | classes node below =>
    have classes : (shiftNode distance node).classes = node.classes := by
      simp only [Node.classes, Node.attributeValue, shiftNode, Attributes.get?_map]
      cases node.attributes.get? "class" <;> rfl
    simp only [Invocation.answer, shiftCall, shiftTarget, Rule.classNoDup, classes]
    simp only [shiftNode, Attributes.get?_map]
    cases node.attributes.get? "class" with
    | none => rfl
    | some attr => simp [Except.map, shiftIssue, Profile.issue, shiftAttribute]
  | image node below =>
    have described : ((shiftNode distance node).attributes.get? "alt").isNone =
        (node.attributes.get? "alt").isNone := by
      rw [shiftNode, Attributes.get?_map]
      cases node.attributes.get? "alt" <;> rfl
    simp only [shiftCall, shiftTarget, answer_imgReqAlt, described]
    change Except.ok (if Text.lowered node.name == "img" && _ then _ else _) = _
    split <;> rfl
  | close node below =>
    simp only [Invocation.answer, shiftCall, shiftTarget, Rule.selfClose]
    -- name and text of the tag are not shifted, so the same branch is taken
    change (if voidElements.contains (Text.lowered node.name) && !node.openTag.isSelfClosing then _ else _) = _
    split <;> rfl

theorem issues_shift (distance : Int) (asked : Question options call) :
    (shiftCall distance call).issues = call.issues.map (shiftIssue distance) := by
  simp only [Invocation.issues, answer_shift distance asked]
  cases call.answer <;> rfl

theorem index_nonneg (asked : Question options call) (ahead : AheadTarget call.target) {issue : Issue}
    (member : issue ∈ call.issues) {index : Int} (found : issue.index? = some index) : 0 ≤ index := by
  cases asked with
  | quotes attr =>
    obtain ⟨-, same, -⟩ := (answers_quoteStyle ..).each issue member
    exact ahead.value index (same.symm.trans found)
  | id attr =>
    obtain ⟨-, same⟩ := (answers_idNoWhitespace ..).each issue member
    exact ahead.value index (same.symm.trans found)
  | classes node below =>
    obtain ⟨-, attr, there, same⟩ := (answers_classNoDup ..).each issue member
    exact (ahead.attributes _ (Attributes.get?_eq_some_iff.mp there)).value index (same.symm.trans found)
  | image node below =>
    obtain ⟨-, same⟩ := (answers_imgReqAlt ..).each issue member
    cases same.symm.trans found
    exact ahead.tag
  | close node below =>
    obtain ⟨-, same⟩ := (answers_selfClose ..).each issue member
    cases same.symm.trans found
    exact ahead.tag

end Rules

/-- The same issue of a document that stands behind the text `before`. -/
structure Carried (before : String) (issue later : Issue) : Prop where
  rule : later.rule = issue.rule
  severity : later.severity = issue.severity
  message : later.message = issue.message
  data : later.data = issue.data
  absent : issue.index? = none → later = issue
  placed : ∀ index, issue.index? = some index → later.index? = some (index + before.length) ∧
    ∃ line column, issue.line? = some line ∧ issue.column? = some column ∧
      later.line? = some (line + before.toList.count '\n') ∧
      later.column? = some (if line = 1 then column + (lastLine before.toList).length else column)

theorem carried_locate (before source : String) {issue : Issue}
    (forward : ∀ index, issue.index? = some index → 0 ≤ index) :
    Carried before ((SourceMap.ofText source).locate issue)
      ((SourceMap.ofText (before ++ source)).locate (shiftIssue before.length issue)) := by
  cases found : issue.index? with
  | none =>
    have same : shiftIssue before.length issue = issue := by
      simp only [shiftIssue, found, Option.map_none]
      rw [← found]
    have unplaced (map : SourceMap) : map.locate issue = issue := by rw [SourceMap.locate, found]
    rw [same, unplaced, unplaced]
    exact ⟨rfl, rfl, rfl, rfl, fun _ => rfl, fun index impossible => absurd (found.symm.trans impossible) nofun⟩
  | some index =>
    have shifted : (shiftIssue before.length issue).index? = some (index + before.length) := by
      rw [shiftIssue, found, Option.map_some]
    simp only [SourceMap.locate, found, shifted]
    rw [position_behind before source (forward index found)]
    refine ⟨rfl, rfl, rfl, rfl, fun impossible => absurd (found.symm.trans impossible) nofun, ?_⟩
    intro other same
    obtain rfl : index = other := Option.some.inj (found.symm.trans same)
    exact ⟨shifted, _, _, rfl, rfl, rfl, rfl⟩

/-- A node of which nothing has been located, with its tag at an offset that a source has. -/
structure Unlocated (node : Node) : Prop where
  tag : 0 ≤ node.openTag.index
  attributes : ∀ entry ∈ node.attributes.entries, entry.2.nameIndex? = none ∧ entry.2.valueIndex? = none

private theorem shiftAttribute_of_unlocated {attr : Attribute} (name : attr.nameIndex? = none)
    (value : attr.valueIndex? = none) (distance : Int) : shiftAttribute distance attr = attr := by
  cases attr
  simp_all [shiftAttribute]

def raised (distance : Int) (node : Node) : Node :=
  { node with openTag := { node.openTag with index := node.openTag.index + distance } }

theorem Unlocated.ahead {node : Node} (unlocated : Unlocated node) : AheadNode node := by
  refine ⟨unlocated.tag, ?_⟩
  intro entry member
  obtain ⟨name, value⟩ := unlocated.attributes entry member
  constructor <;> simp [name, value]

theorem Unlocated.raised {node : Node} (unlocated : Unlocated node) (distance : Int) :
    raised distance node = shiftNode distance node := by
  have same : (node.attributes.map fun _ => shiftAttribute distance) = node.attributes := by
    apply Attributes.map_eq_self
    intro entry member
    obtain ⟨name, value⟩ := unlocated.attributes entry member
    exact shiftAttribute_of_unlocated name value distance
  rw [shiftNode, same]
  rfl

/-- Behind another text the built-in rules find the same in a document, only further on. -/
theorem default_moves_with_document {n : Nat} (before source : String) (request : Request)
    (forest : List (Tree (Fin n))) (nodes : Vector Node n)
    (unlocated : ∀ i ∈ Tree.preorderAll forest, Unlocated (nodes.get i)) :
    ∃ issues later,
      (Linter.default.lint { request with source? := some source } forest nodes).result = .ok issues ∧
      (Linter.default.lint { request with source? := some (before ++ source) } forest
        (nodes.map (raised before.length))).result = .ok later ∧
      List.Forall₂ (Carried before) issues later := by
  have shifted : ∀ branch ∈ Tree.branchesAll forest, ∀ i ∈ branch.preorder,
      (nodes.map (raised before.length)).get i = shiftNode before.length (nodes.get i) := by
    intro branch among i member
    rw [← (unlocated i (branchesAll_subset among member)).raised]
    exact Vector.getElem_map _ i.isLt
  have questions {nodes : Vector Node n} : ∀ call ∈ documentCalls Linter.default request.options
      (Tree.branchesAll forest) nodes, Question request.options call := by
    intro call member
    obtain ⟨_, _, _, -, here⟩ := mem_documentCalls member
    exact question_of_mem_agenda here
  have answered {nodes : Vector Node n} : ∀ call ∈ documentCalls Linter.default request.options
      (Tree.branchesAll forest) nodes, call.answer.isOk = true := by
    intro call member
    obtain ⟨_, _, _, -, here⟩ := mem_documentCalls member
    exact answered_default here
  refine ⟨_, _, (RunOrder.lint_of_due Linter.default { request with source? := some source } forest nodes answered).2,
    (RunOrder.lint_of_due Linter.default { request with source? := some (before ++ source) } forest _ answered).2, ?_⟩
  have found : (documentCalls Linter.default request.options (Tree.branchesAll forest)
      (nodes.map (raised before.length))).flatMap (·.issues) =
        ((documentCalls Linter.default request.options (Tree.branchesAll forest) nodes).flatMap (·.issues)).map
          (shiftIssue before.length) := by
    rw [documentCalls_shift _ _ _ shifted, List.flatMap_map, List.map_flatMap]
    exact List.flatMap_congr fun call member => issues_shift _ (questions call member)
  rw [found]
  simp only [Linter.located, List.map_map, List.forall₂_map_left_iff, List.forall₂_map_right_iff, List.forall₂_same]
  intro issue member
  obtain ⟨call, due, said⟩ := List.mem_flatMap.mp member
  apply carried_locate
  intro index pointed
  have ahead := ahead_of_mem_documentCalls (fun i among =>
    (unlocated i (label_branchesAll forest ▸ among)).ahead) due
  exact index_nonneg (questions call due) ahead said pointed

/-- The last of them has an attribute that its tag does not show. -/
def sheet : Vector Node 3 :=
  #v[element "p" ⟨"p id='a b'", 0⟩, element "img" ⟨"img\n class='x'", 12⟩,
    { element "a" ⟨"a", 31⟩ with attributes := ⟨[("id", { name := "id", value? := some "u v" })], by decide⟩ }]

theorem sheet_behind_comment :
    let before := "<!-- -->\n  "
    let source := "<p id='a b'><img\n class='x'>\n<a>"
    let forest : List (Tree (Fin 3)) := [.node 0 [.node 1 []], .node 2 []]
    let run := Linter.default.lint { source? := some source } forest sheet
    let further := Linter.default.lint { source? := some (before ++ source) } forest (sheet.map (raised before.length))
    (∀ i ∈ Tree.preorderAll forest, Unlocated (sheet.get i)) ∧
    (∃ issues later, run.result = .ok issues ∧ further.result = .ok later ∧
      List.Forall₂ (Carried before) issues later) ∧
    (run.result.toOption.map (·.map fun issue => (issue.rule, issue.index?, issue.line?, issue.column?)) =
      some [("attr-quote-style", some 6, some 1, some 7), ("id-no-whitespace", some 6, some 1, some 7),
        ("attr-quote-style", some 24, some 2, some 8),
        ("img-req-alt", some 12, some 1, some 13), ("tag-self-close", some 12, some 1, some 13),
        ("id-no-whitespace", none, none, none)]) ∧
    further.result.toOption.map (·.map fun issue => (issue.rule, issue.index?, issue.line?, issue.column?)) =
      some [("attr-quote-style", some 17, some 2, some 9), ("id-no-whitespace", some 17, some 2, some 9),
        ("attr-quote-style", some 35, some 3, some 8),
        ("img-req-alt", some 23, some 2, some 15), ("tag-self-close", some 23, some 2, some 15),
        ("id-no-whitespace", none, none, none)] := by
  intro before source forest run further
  have unlocated : ∀ i ∈ Tree.preorderAll forest, Unlocated (sheet.get i) := by
    intro i _
    constructor
    case tag => decide +revert +kernel
    case attributes => decide +revert +kernel
  refine ⟨unlocated, ?_, by decide +kernel, by decide +kernel⟩
  exact default_moves_with_document before source {} forest sheet unlocated

end TagLint.Proofs.Embedding
