import TagLint.Proofs.BuiltInRules

/-! What the built-in rules accept, judged on the opening tags as they are written. Where an attribute is written
several times, the rule on quotes looks at the first occurrence that has a value and all others at the first. -/

namespace TagLint.Proofs.CleanDocuments
open PassPlans Agendas KeyedRuns Duplicates BuiltAttributes BuiltInRules

/-- What is asked of tags only, and not of styles and scripts. -/
structure CleanTag (node : Node) : Prop where
  distinct : ∀ occ, (occurrencesOf node.openTag "class").head? = some occ → ∀ raw, occ.raw? = some raw →
    (Words.words (Text.unquote raw)).Nodup
  described : Text.lowered node.name = "img" → occurrencesOf node.openTag "alt" ≠ []
  closed : Text.lowered node.name ∈ voidElements → ∃ before, node.openTag.text.toList = before ++ ['/']

structure Clean (node : Node) : Prop where
  quoted : ∀ key occ, (occurrencesOf node.openTag key).find? (·.assignment.isSome) = some occ →
    ∀ raw, occ.raw? = some raw → DoubleQuoted raw
  identified : ∀ occ, (occurrencesOf node.openTag "id").head? = some occ → ∃ raw, occ.raw? = some raw ∧
    Text.unquote raw ≠ [] ∧ ∀ c ∈ Text.unquote raw, Text.isBlank c = false
  tagged : node.type = .tag → CleanTag node

variable {node : Node} {options : Datum}

section Element

variable (built : Built node) (element : node.isElement = true)
include built element

private theorem forall_opened_iff (key : String) (p : Attribute → Prop) :
    (∀ attr, (opened node).attributes.get? key = some attr → p attr) ↔
      ∀ first, (occurrencesOf node.openTag key).head? = some first → p (placed node.openTag key first) := by
  rw [get?_opened built element]
  simp

theorem quotes_silent_iff :
    (∀ key attr, (opened node).attributes.get? key = some attr →
      Invocation.issues ⟨.quoteStyle .double, .attr attr, options⟩ = []) ↔
    ∀ key occ, (occurrencesOf node.openTag key).find? (·.assignment.isSome) = some occ → ∀ raw, occ.raw? = some raw →
      DoubleQuoted raw := by
  apply forall_congr'
  intro key
  rw [forall_opened_iff built element key]
  simp only [(answers_quoteStyle ..).silent]
  constructor
  · intro silent occ valued raw written
    obtain ⟨first, begins⟩ : ∃ first, (occurrencesOf node.openTag key).head? = some first := by
      apply Option.isSome_iff_exists.mp
      rw [List.isSome_head?]
      simpa using List.ne_nil_of_mem (List.mem_of_find?_eq_some valued)
    have given : (placed node.openTag key first).rawValue? = some (.ofList raw) := by
      rw [placed_rawValue? begins, valued, Option.bind_some, written]
      rfl
    have quoted := silent first begins _ given
    rwa [String.toList_ofList] at quoted
  · intro clean first begins raw written
    rw [placed_rawValue? begins, Option.map_eq_some_iff] at written
    obtain ⟨chars, valued, rfl⟩ := written
    obtain ⟨occ, found, given⟩ := Option.bind_eq_some_iff.mp valued
    rw [String.toList_ofList]
    exact clean occ found chars given

theorem id_silent_iff :
    (∀ attr, (opened node).attributes.get? "id" = some attr →
      Invocation.issues ⟨.idNoWhitespace, .attr attr, options⟩ = []) ↔
    ∀ occ, (occurrencesOf node.openTag "id").head? = some occ → ∃ raw, occ.raw? = some raw ∧
      Text.unquote raw ≠ [] ∧ ∀ c ∈ Text.unquote raw, Text.isBlank c = false := by
  rw [forall_opened_iff built element]
  apply forall_congr'
  intro first
  apply imp_congr_right
  intro begins
  rw [(answers_idNoWhitespace ..).silent, ne_eq, ← String.toList_eq_nil_iff, placed_content]
  cases first.raw? <;> simp

theorem class_silent_iff :
    Invocation.issues ⟨.classNoDup, .node (opened node) below, options⟩ = [] ↔
    ∀ occ, (occurrencesOf node.openTag "class").head? = some occ → ∀ raw, occ.raw? = some raw →
      (Words.words (Text.unquote raw)).Nodup := by
  rw [(answers_classNoDup ..).silent, Node.attributeValue, get?_opened built element]
  cases begins : (occurrencesOf node.openTag "class").head? with
  | none => simp [Words.words_nil]
  | some first =>
    rw [Option.map_some, Option.bind_some, placed_content]
    cases written : first.raw? <;> simp [written, Words.words_nil]

theorem img_silent_iff :
    Invocation.issues ⟨.imgReqAlt, .node (opened node) below, options⟩ = [] ↔
    (Text.lowered node.name = "img" → occurrencesOf node.openTag "alt" ≠ []) := by
  rw [(answers_imgReqAlt ..).silent, get?_opened built element, built.opened element]
  simp

theorem close_silent_iff :
    Invocation.issues ⟨.selfClose .always, .node (opened node) below, options⟩ = [] ↔
    (Text.lowered node.name ∈ voidElements → ∃ before, node.openTag.text.toList = before ++ ['/']) := by
  rw [(answers_selfClose ..).silent, built.opened element]

private theorem tag_silent_iff :
    (∀ rule ∈ tagRules, Invocation.issues ⟨rule, .node (opened node) below, options⟩ = []) ↔ CleanTag node := by
  simp only [tagRules, List.forall_mem_cons, List.not_mem_nil, false_implies, implies_true, and_true]
  rw [class_silent_iff built element, img_silent_iff built element, close_silent_iff built element]
  constructor
  · rintro ⟨distinct, described, closed⟩
    exact ⟨distinct, described, closed⟩
  · rintro ⟨distinct, described, closed⟩
    exact ⟨distinct, described, closed⟩

theorem findings_eq_nil_iff : findings options node = [] ↔ Clean node := by
  have steady : Steady node := fun _ => built.keyed
  rw [findings, List.flatMap_eq_nil_iff]
  constructor
  · intro silent
    have asked {call : Invocation} (asked : Asked options [] node call) : call.issues = [] :=
      silent call ((mem_agenda_default steady).mpr ⟨element, asked⟩)
    constructor
    case quoted => exact (quotes_silent_iff built element).mp fun key attr found => asked (.quotes found)
    case identified => exact (id_silent_iff built element).mp fun attr found => asked (.id found)
    case tagged =>
      intro type
      exact (tag_silent_iff built element).mp fun rule member => asked (.tag type member)
  · intro clean call member
    obtain ⟨-, asked⟩ := (mem_agenda_default steady).mp member
    cases asked with
    | quotes found => exact (quotes_silent_iff built element).mpr clean.quoted _ _ found
    | id found => exact (id_silent_iff built element).mpr clean.identified _ found
    | tag type among => exact (tag_silent_iff built element).mpr (clean.tagged type) _ among

end Element

private theorem findings_of_plain (plain : node.isElement = false) : findings options node = [] := by
  have steady : Steady node := fun element => absurd (plain ▸ element) Bool.false_ne_true
  apply List.flatMap_eq_nil_iff.mpr
  intro call member
  have element := ((mem_agenda_default steady).mp member).1
  rw [plain] at element
  contradiction

private theorem located_eq_nil_iff {source? : Option String} {issues : List Issue} :
    Linter.located source? issues = [] ↔ issues = [] := by
  cases source? with
  | none => exact Iff.rfl
  | some source => exact List.map_eq_nil_iff

/-- A run of the built-in rules gives what its nodes give one after another. It is nothing just where every element is
clean, and a node that is no element gives nothing. -/
theorem default_gives_nothing_iff_clean {n : Nat} (request : Request) {forest : List (Tree (Fin n))}
    {nodes : Vector Node n}
    (built : ∀ i ∈ Tree.preorderAll forest, (nodes.get i).isElement = true → Built (nodes.get i)) :
    ∃ found, Reports Linter.default request forest nodes found ∧
      ((Linter.default.lint request forest nodes).result = .ok [] ↔
        ∀ i ∈ Tree.preorderAll forest, (nodes.get i).isElement = true → Clean (nodes.get i)) ∧
      ∀ i ∈ Tree.preorderAll forest, (nodes.get i).isElement = false → found i = [] := by
  have reports := reports_default request fun i member element => (built i member element).keyed
  refine ⟨_, reports, ?_, ?_⟩
  · rw [reports.together, Except.ok.injEq, List.flatMap_eq_nil_iff]
    apply forall_congr'
    intro i
    apply imp_congr_right
    intro member
    rw [located_eq_nil_iff]
    cases element : (nodes.get i).isElement with
    | true => simpa using findings_eq_nil_iff (built i member element) element
    | false => simpa using findings_of_plain element
  · intro i _ plain
    exact located_eq_nil_iff.mpr (findings_of_plain plain)

def gallery : Vector Node 4 :=
  #v[RepeatedRuns.element "div" ⟨"div class CLASS=\"x x\" ID=\"top\"", 0⟩,
    { RepeatedRuns.element "style" ⟨"style media=\"print\"", 32⟩ with type := .style },
    { type := .text, data? := some "'" },
    RepeatedRuns.element "IMG" ⟨"IMG src=\"a.png\" Alt /", 68⟩]

theorem gallery_is_clean : Clean (gallery.get 0) ∧ Clean (gallery.get 1) ∧ Clean (gallery.get 3) := by
  let forest : List (Tree (Fin 4)) := [.node 0 [.node 1 [], .node 2 []], .node 3 []]
  have built : ∀ i ∈ Tree.preorderAll forest, (gallery.get i).isElement = true → Built (gallery.get i)
    | 0, _, _ | 1, _, _ | 3, _, _ => ⟨rfl, rfl⟩
  have quiet : (Linter.default.lint {} forest gallery).result = .ok [] := by
    have empty : (Linter.default.lint {} forest gallery).result.toOption.map (·.isEmpty) = some true := by decide +kernel
    cases ended : (Linter.default.lint {} forest gallery).result with
    | error failure => simp [ended, Except.toOption] at empty
    | ok issues => simpa [ended, Except.toOption] using empty
  obtain ⟨-, -, clean, -⟩ := default_gives_nothing_iff_clean {} built
  have all := clean.mp quiet
  exact ⟨all 0 (by decide) rfl, all 1 (by decide) rfl, all 3 (by decide) rfl⟩

end TagLint.Proofs.CleanDocuments
