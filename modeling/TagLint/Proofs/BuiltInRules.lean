import Mathlib.Data.List.Nodup
import TagLint.Proofs.BuiltAttributes
import TagLint.Proofs.KeyedRuns
import TagLint.Proofs.Words

/-! What the built-in rules are asked and what they answer. Two of them hear of every attribute of an element and three
look at tags, and at nothing below them; none of them fails, so a run gives the issues of its nodes one after another. -/

namespace TagLint.Proofs.BuiltInRules
open PassPlans Agendas Branches RepeatedRuns KeyedRuns

/-- A node as it is built from its opening tag, with nothing located yet. -/
structure Built (node : Node) : Prop where
  attributes : node.attributes = node.openTag.attributes
  unresolved : node.attributesResolved = false

variable {node : Node} {below : List (Tree Node)} {options : Datum}

theorem Built.keyed (built : Built node) : Keyed node := by
  intro entry member
  rw [built.attributes] at member
  obtain ⟨occ, -, same⟩ := BuiltAttributes.first_of_mem_entries member
  rw [same]
  rfl

theorem Built.opened (built : Built node) (element : node.isElement = true) :
    opened node = { node with
      attributes := node.openTag.attributes.locate node.openTag
      attributesResolved := true } := by
  have fresh : ¬ node.attributesResolved = true := by simp [built.unresolved]
  rw [Agendas.opened, if_pos element, Node.annotated, if_neg fresh, built.attributes]

def attributeRules : List Rule :=
  [.quoteStyle .double, .idNoWhitespace]

def tagRules : List Rule :=
  [.classNoDup, .imgReqAlt, .selfClose .always]

private theorem listening_default : Linter.default.rules.filter (·.isAttributeRule) = attributeRules :=
  rfl

private theorem firing_default (type : NodeType) :
    firing Linter.default type = if type = .tag then tagRules else [] := by
  cases type <;> rfl

private theorem wanting_default (key : String) : attributeRules.filter (·.triggersOn key) =
    .quoteStyle .double :: if key = "id" then [.idNoWhitespace] else [] := by
  have any : (Rule.quoteStyle .double).triggersOn key = true := rfl
  have ids : Rule.idNoWhitespace.triggersOn key = (key == "id") := by
    change ["id"].contains key = (key == "id")
    rw [List.contains_cons, List.contains_nil, Bool.or_false]
  rw [attributeRules, List.filter_cons, any, if_pos rfl, List.filter_cons, ids, List.filter_nil]
  simp

/-- The invocations about an element, which has been opened before. -/
inductive Asked (options : Datum) (below : List (Tree Node)) (node : Node) : Invocation → Prop
  | quotes {key : String} {attr : Attribute} : (opened node).attributes.get? key = some attr →
      Asked options below node ⟨.quoteStyle .double, .attr attr, options⟩
  | id {attr : Attribute} : (opened node).attributes.get? "id" = some attr →
      Asked options below node ⟨.idNoWhitespace, .attr attr, options⟩
  | tag {rule : Rule} : node.type = .tag → rule ∈ tagRules →
      Asked options below node ⟨rule, .node (opened node) below, options⟩

private theorem mem_shows_default {call : Invocation} (keyed : Keyed node) : call ∈ shows options attributeRules node ↔
    ∃ key attr, node.attributes.get? key = some attr ∧ (call = ⟨.quoteStyle .double, .attr attr, options⟩ ∨
      key = "id" ∧ call = ⟨.idNoWhitespace, .attr attr, options⟩) := by
  have delivered (key : String) (attr : Attribute) (same : attr.name = key) :
      call ∈ deliveries options attributeRules key attr ↔
        call = ⟨.quoteStyle .double, .attr attr, options⟩ ∨
          key = "id" ∧ call = ⟨.idNoWhitespace, .attr attr, options⟩ := by
    subst same
    rw [deliveries, wanting_default, List.map_cons, List.mem_cons]
    by_cases id : attr.name = "id"
    · rw [if_pos id, List.map_singleton, List.mem_singleton]
      exact or_congr_right (iff_and_self.mpr fun _ => id)
    · rw [if_neg id, List.map_nil]
      simp [id]
  simp only [shows, List.mem_flatMap, Prod.exists, Attributes.get?_eq_some_iff]
  constructor
  · rintro ⟨key, attr, member, here⟩
    exact ⟨key, attr, member, (delivered key attr (keyed _ member)).mp here⟩
  · rintro ⟨key, attr, member, here⟩
    exact ⟨key, attr, member, (delivered key attr (keyed _ member)).mpr here⟩

private theorem callsInTurn_tagRules (options : Datum) (below : List (Tree Node)) (node : Node) :
    callsInTurn options below tagRules node = tagRules.map fun rule => ⟨rule, .node node below, options⟩ :=
  rfl

/-- Only elements are asked about, and what is asked about them is known in advance. -/
theorem mem_agenda_default {call : Invocation} (steady : Steady node) :
    call ∈ agenda Linter.default options below node ↔ node.isElement = true ∧ Asked options below node call := by
  rw [agenda, ready_of_steady _ steady, firing_default, listening_default]
  cases element : node.isElement with
  | false =>
    have other : node.type ≠ .tag := by
      intro tag
      rw [Node.isElement, tag] at element
      contradiction
    simp [other, callsInTurn]
  | true =>
    have keyed : Keyed (opened node) := (steady element).opened
    rw [if_pos rfl, List.mem_append, mem_shows_default keyed]
    constructor
    · rintro (⟨key, attr, found, rfl | ⟨rfl, rfl⟩⟩ | here)
      · exact ⟨rfl, .quotes found⟩
      · exact ⟨rfl, .id found⟩
      · split at here
        next tag =>
          rw [callsInTurn_tagRules] at here
          obtain ⟨rule, member, rfl⟩ := List.mem_map.mp here
          exact ⟨rfl, .tag tag member⟩
        next => contradiction
    · rintro ⟨-, asked⟩
      cases asked with
      | quotes found => exact .inl ⟨_, _, found, .inl rfl⟩
      | id found => exact .inl ⟨_, _, found, .inr ⟨rfl, rfl⟩⟩
      | tag tag member =>
        rw [if_pos tag, callsInTurn_tagRules]
        exact .inr (List.mem_map.mpr ⟨_, member, rfl⟩)

/-- The built-in rules with the kinds of targets that they are made for. -/
inductive Question (options : Datum) : Invocation → Prop
  | quotes (attr : Attribute) : Question options ⟨.quoteStyle .double, .attr attr, options⟩
  | id (attr : Attribute) : Question options ⟨.idNoWhitespace, .attr attr, options⟩
  | classes (node : Node) (below : List (Tree Node)) : Question options ⟨.classNoDup, .node node below, options⟩
  | image (node : Node) (below : List (Tree Node)) : Question options ⟨.imgReqAlt, .node node below, options⟩
  | close (node : Node) (below : List (Tree Node)) : Question options ⟨.selfClose .always, .node node below, options⟩

theorem question_of_mem_agenda {call : Invocation} (member : call ∈ agenda Linter.default options below node) :
    Question options call := by
  rw [agenda, firing_default, listening_default, List.mem_append] at member
  rcases member with shown | asked
  · split at shown
    · simp only [shows, deliveries, attributeRules, List.mem_flatMap, List.mem_map, List.mem_filter, List.mem_cons,
        List.not_mem_nil, or_false] at shown
      obtain ⟨⟨key, attr⟩, -, rule, ⟨rfl | rfl, -⟩, rfl⟩ := shown
      · exact .quotes _
      · exact .id _
    · contradiction
  · split at asked
    · rw [callsInTurn_tagRules] at asked
      obtain ⟨rule, among, rfl⟩ := List.mem_map.mp asked
      simp only [tagRules, List.mem_cons, List.not_mem_nil, or_false] at among
      rcases among with rfl | rfl | rfl
      · exact .classes ..
      · exact .image ..
      · exact .close ..
    · contradiction

/-- What is known of an answer: when it is empty, and what holds of each of its issues. -/
structure Answers (call : Invocation) (silent : Prop) (each : Issue → Prop) : Prop where
  answered : call.answer.isOk = true
  silent : call.issues = [] ↔ silent
  each : ∀ issue ∈ call.issues, each issue

variable {call : Invocation} {silent : Prop} {each : Issue → Prop}

theorem Answers.nothing (answer : call.answer = .ok []) (holds : silent) : Answers call silent each := by
  constructor
  case answered => rw [answer]; rfl
  case silent => simp [Invocation.issues, answer, holds]
  case each => simp [Invocation.issues, answer]

theorem Answers.single {issue : Issue} (answer : call.answer = .ok [issue]) (fails : ¬ silent) (said : each issue) :
    Answers call silent each := by
  constructor
  case answered => rw [answer]; rfl
  case silent => simp [Invocation.issues, answer, fails]
  case each => simp [Invocation.issues, answer, said]

def DoubleQuoted (raw : List Char) : Prop :=
  ∃ content, raw = '"' :: content ++ ['"']

private theorem accepts_double_iff (raw : String) : QuoteStyle.double.accepts raw = true ↔ DoubleQuoted raw.toList := by
  have quotes : QuoteStyle.double.accepts raw = true ↔ Text.enclosingQuote? raw.toList = some '"' := by
    rw [QuoteStyle.accepts]
    cases Text.enclosingQuote? raw.toList <;> simp [QuoteStyle.quotes]
  rw [quotes, Text.enclosingQuote?_eq_some_iff]
  exact ⟨And.right, fun enclosed => ⟨.inl rfl, enclosed⟩⟩

section Answers

variable (options : Datum) (below : List (Tree Node)) (node : Node) (attr : Attribute)

theorem answers_quoteStyle : Answers ⟨.quoteStyle .double, .attr attr, options⟩
    (∀ raw, attr.rawValue? = some raw → DoubleQuoted raw.toList)
    fun issue => issue.rule = "attr-quote-style" ∧ issue.index? = attr.valueIndex? ∧
      issue.data.lookup "attribute" = some (.text attr.name) ∧
      ∃ raw, attr.rawValue? = some raw ∧ ¬ DoubleQuoted raw.toList := by
  cases written : attr.rawValue? with
  | none =>
    apply Answers.nothing
    · simp only [Invocation.answer, Rule.quoteStyle, written]
    · exact fun _ impossible => nomatch impossible
  | some raw =>
    have accepted := accepts_double_iff raw
    cases accepts : QuoteStyle.double.accepts raw with
    | true =>
      apply Answers.nothing
      · simp only [Invocation.answer, Rule.quoteStyle, written, accepts, if_true]
      · rintro _ ⟨⟩
        exact accepted.mp accepts
    | false =>
      have fails : ¬ DoubleQuoted raw.toList := fun quoted => by simp [accepted.mpr quoted] at accepts
      apply Answers.single
      · simp only [Invocation.answer, Rule.quoteStyle, written, accepts, Bool.false_eq_true, if_false]
        rfl
      · exact fun all => fails (all raw rfl)
      · exact ⟨rfl, rfl, rfl, raw, rfl, fails⟩

theorem answers_idNoWhitespace : Answers ⟨.idNoWhitespace, .attr attr, options⟩
    (attr.value?.getD "" ≠ "" ∧ ∀ c ∈ (attr.value?.getD "").toList, Text.isBlank c = false)
    fun issue => issue.rule = "id-no-whitespace" ∧ issue.index? = attr.valueIndex? := by
  generalize given : attr.value?.getD "" = value
  by_cases empty : value = ""
  · apply Answers.single
    · simp only [Invocation.answer, Rule.idNoWhitespace, given, empty, beq_self_eq_true, if_true]
      rfl
    · exact fun fine => fine.1 empty
    · exact ⟨rfl, rfl⟩
  · have solid : (value == "") = false := by simpa using empty
    cases blank : value.toList.any Text.isBlank with
    | true =>
      apply Answers.single
      · simp only [Invocation.answer, Rule.idNoWhitespace, given, solid, blank, Bool.false_eq_true, if_false, if_true]
        rfl
      · rintro ⟨-, solid⟩
        obtain ⟨c, member, found⟩ := List.any_eq_true.mp blank
        rw [solid c member] at found
        contradiction
      · exact ⟨rfl, rfl⟩
    | false =>
      apply Answers.nothing
      · simp only [Invocation.answer, Rule.idNoWhitespace, given, solid, blank, Bool.false_eq_true, if_false]
      · exact ⟨empty, fun c member => by simpa using List.any_eq_false.mp blank c member⟩

theorem answers_classNoDup : Answers ⟨.classNoDup, .node node below, options⟩
    (Words.words (node.attributeValue "class").toList).Nodup
    fun issue => issue.rule = "class-no-dup" ∧
      ∃ attr, node.attributes.get? "class" = some attr ∧ issue.index? = attr.valueIndex? := by
  cases found : node.attributes.get? "class" with
  | none =>
    apply Answers.nothing
    · simp only [Invocation.answer, Rule.classNoDup, found]
    · simp [Node.attributeValue, found, Words.words_nil]
  | some attr =>
    have answer : Invocation.answer ⟨.classNoDup, .node node below, options⟩ =
        .ok ((Rule.repeatedWords [] node.classes).map fun word =>
          Rule.classNoDupProfile.issue ("Duplicate class \"" ++ word ++ "\"") attr.valueIndex?
            [("class", .text word)]) := by
      simp only [Invocation.answer, Rule.classNoDup, found]
    have distinct := Words.repeatedWords_eq_nil_iff [] node.classes
    rw [Words.classes_words, List.nodup_map_iff fun _ _ => String.ofList_inj.mp] at distinct
    constructor
    case answered =>
      rw [answer]
      rfl
    case silent => simpa [Invocation.issues, answer] using distinct
    case each =>
      intro issue member
      simp only [Invocation.issues, answer] at member
      obtain ⟨word, -, rfl⟩ := List.mem_map.mp member
      exact ⟨rfl, attr, rfl, rfl⟩

theorem answer_imgReqAlt : Invocation.answer ⟨.imgReqAlt, .node node below, options⟩ =
    .ok (if Text.lowered node.name == "img" && (node.attributes.get? "alt").isNone then
      [Rule.imgReqAltProfile.issue "<img> is missing an alt attribute" (some node.openTag.index)]
    else []) := by
  cases image : Text.lowered node.name == "img" with
  | false =>
    have other : (Text.lowered (Target.node node below).name != "img") = true := by simpa [Target.name] using image
    simp only [Invocation.answer, Rule.imgReqAlt, other, if_true]
    rfl
  | true =>
    have same : (Text.lowered (Target.node node below).name != "img") = false := by simpa [Target.name] using image
    cases described : node.attributes.get? "alt" with
    | none =>
      simp only [Invocation.answer, Rule.imgReqAlt, same, Node.hasAttribute, described, Option.any_none,
        Bool.false_eq_true, if_false]
      rfl
    | some attr =>
      simp only [Invocation.answer, Rule.imgReqAlt, same, Node.hasAttribute, described, Option.any_some, Bool.true_or,
        Bool.false_eq_true, if_false, if_true]
      rfl

theorem answers_imgReqAlt : Answers ⟨.imgReqAlt, .node node below, options⟩
    (Text.lowered node.name = "img" → node.attributes.get? "alt" ≠ none)
    fun issue => issue.rule = "img-req-alt" ∧ issue.index? = some node.openTag.index := by
  cases due : Text.lowered node.name == "img" && (node.attributes.get? "alt").isNone with
  | true =>
    obtain ⟨image, missing⟩ := Bool.and_eq_true_iff.mp due
    apply Answers.single
    · rw [answer_imgReqAlt, due, if_pos rfl]
    · exact fun fine => fine (beq_iff_eq.mp image) (Option.isNone_iff_eq_none.mp missing)
    · exact ⟨rfl, rfl⟩
  | false =>
    apply Answers.nothing
    · rw [answer_imgReqAlt, due]
      rfl
    · intro image missing
      rw [image, missing] at due
      contradiction

theorem answers_selfClose : Answers ⟨.selfClose .always, .node node below, options⟩
    (Text.lowered node.name ∈ voidElements → ∃ before, node.openTag.text.toList = before ++ ['/'])
    fun issue => issue.rule = "tag-self-close" ∧ issue.index? = some node.openTag.index := by
  have closes : node.openTag.isSelfClosing = true ↔ ∃ before, node.openTag.text.toList = before ++ ['/'] := by
    rw [OpenTag.isSelfClosing, beq_iff_eq]
    exact List.getLast?_eq_some_iff
  cases due : voidElements.contains (Text.lowered node.name) && !node.openTag.isSelfClosing with
  | true =>
    obtain ⟨void, unclosed⟩ := Bool.and_eq_true_iff.mp due
    apply Answers.single
    · simp only [Invocation.answer, Rule.selfClose, due, if_true]
      rfl
    · intro fine
      have closed := closes.mpr (fine (List.contains_iff_mem.mp void))
      simp [closed] at unclosed
    · exact ⟨rfl, rfl⟩
  | false =>
    apply Answers.nothing
    · simp only [Invocation.answer, Rule.selfClose, due, Bool.false_eq_true, if_false]
    · intro void
      apply closes.mp
      rw [List.contains_iff_mem.mpr void, Bool.true_and, Bool.not_eq_false'] at due
      exact due

end Answers

theorem answered_default {call : Invocation} (member : call ∈ agenda Linter.default options below node) :
    call.answer.isOk = true := by
  cases question_of_mem_agenda member with
  | quotes attr => exact (answers_quoteStyle ..).answered
  | id attr => exact (answers_idNoWhitespace ..).answered
  | classes node below => exact (answers_classNoDup ..).answered
  | image node below => exact (answers_imgReqAlt ..).answered
  | close node below => exact (answers_selfClose ..).answered

/-- What is found about a node, with anything below it or nothing. -/
def findings (options : Datum) (node : Node) : List Issue :=
  (agenda Linter.default options [] node).flatMap (·.issues)

private theorem issues_agenda (options : Datum) (below : List (Tree Node)) (node : Node) :
    (agenda Linter.default options below node).flatMap (·.issues) = findings options node := by
  rw [findings, agenda, agenda, firing_default, List.flatMap_append, List.flatMap_append]
  congr 1
  split <;> rfl

private theorem findings_opened (options : Datum) (node : Node) :
    findings options (opened node) = findings options node := by
  rw [findings, findings, agenda_opened]

section Run

variable {n : Nat}

/-- A run whose report is the reports on its nodes, each linted alone, one after another. -/
structure Reports (linter : Linter) (request : Request) (forest : List (Tree (Fin n))) (nodes : Vector Node n)
    (found : Fin n → List Issue) : Prop where
  alone : ∀ i ∈ Tree.preorderAll forest, (linter.lint request [.node i []] nodes).result = .ok (found i)
  together : (linter.lint request forest nodes).result = .ok ((Tree.preorderAll forest).flatMap found)

private theorem issues_documentCalls (options : Datum) {branches : List (Tree (Fin n))} {nodes : Vector Node n}
    (steady : ∀ i ∈ branches.map Tree.label, Steady (nodes.get i)) :
    (documentCalls Linter.default options branches nodes).flatMap (·.issues) =
      (branches.map Tree.label).flatMap fun i => findings options (nodes.get i) := by
  induction branches generalizing nodes with
  | nil => rfl
  | cons branch branches ih =>
    obtain ⟨here, later⟩ := List.forall_mem_cons.mp steady
    rw [documentCalls, List.flatMap_append, issues_agenda, afterVisit_of_steady _ here,
      ih fun j member => (later j member).openAt branch.label, List.map_cons, List.flatMap_cons]
    congr 1
    apply List.flatMap_congr
    intro j _
    rcases openAt_get nodes branch.label j with same | same
    · rw [same]
    · rw [same, findings_opened]

theorem reports_default (request : Request) {forest : List (Tree (Fin n))} {nodes : Vector Node n}
    (steady : ∀ i ∈ Tree.preorderAll forest, Steady (nodes.get i)) :
    Reports Linter.default request forest nodes fun i =>
      Linter.located request.source? (findings request.options (nodes.get i)) := by
  have given (forest : List (Tree (Fin n))) (steady : ∀ i ∈ Tree.preorderAll forest, Steady (nodes.get i)) :
      (Linter.default.lint request forest nodes).result = .ok ((Tree.preorderAll forest).flatMap fun i =>
        Linter.located request.source? (findings request.options (nodes.get i))) := by
    rw [← label_branchesAll] at steady ⊢
    rw [← located_flatMap, ← issues_documentCalls request.options steady]
    refine (RunOrder.lint_of_due Linter.default request forest nodes ?_).2
    intro call member
    obtain ⟨before, branch, later, -, due⟩ := mem_documentCalls member
    exact answered_default due
  constructor
  case alone =>
    intro i member
    have only : Tree.preorderAll [.node i []] = [i] := rfl
    have single := given [.node i []] fun j among => List.mem_singleton.mp (only ▸ among) ▸ steady i member
    rw [only, List.flatMap_singleton] at single
    exact single
  case together => exact given forest steady

end Run

theorem get?_opened (built : Built node) (element : node.isElement = true) (key : String) :
    (opened node).attributes.get? key =
      (Duplicates.occurrencesOf node.openTag key).head?.map (BuiltAttributes.placed node.openTag key) := by
  rw [built.opened element]
  exact BuiltAttributes.get?_located node.openTag key

end TagLint.Proofs.BuiltInRules
