import TagLint.Proofs.FirstFailure

/-! Runs one after another over the same document. What a run asks of a node depends on the node as it is once opened,
and an earlier run, however it ended, leaves nodes that open as they did before. Below the node nothing is opened yet in a
first run, so a later run may differ for rules that look there for what opening changes, and for no others. -/

namespace TagLint.Proofs.RepeatedRuns
open PassPlans PassFailures Agendas NodeStates Branches

/-- Every attribute has the key that it stands under for its name. -/
def Keyed (node : Node) : Prop :=
  ∀ entry ∈ node.attributes.entries, entry.2.name = entry.1

instance (node : Node) : Decidable (Keyed node) :=
  inferInstanceAs (Decidable (∀ entry ∈ node.attributes.entries, entry.2.name = entry.1))

theorem Keyed.opened {node : Node} (keyed : Keyed node) : Keyed (opened node) := by
  rw [Agendas.opened]
  split
  · rw [Node.annotated]
    split
    · exact keyed
    · intro entry member
      rw [Duplicates.locate_eq_map, Attributes.map] at member
      obtain ⟨⟨key, attr⟩, among, rfl⟩ := List.mem_map.mp member
      exact (Duplicates.shown_keeps _ _ _).1.trans (keyed _ among)
  · exact keyed

private theorem entries_eq_of_keyed {before after : List (String × Attribute)}
    (renamed : List.Forall₂ Renaming before after) (keyed : ∀ entry ∈ before, entry.2.name = entry.1) :
    after = before := by
  induction renamed with
  | nil => rfl
  | @cons entry other entries others here rest ih =>
    obtain ⟨named, keyed⟩ := List.forall_mem_cons.mp keyed
    have same : other = entry := by
      obtain ⟨key, kept | renamed⟩ := here
      · exact Prod.ext key kept
      · rw [← named] at renamed
        exact Prod.ext key renamed
    rw [same, ih keyed]

theorem eq_opened_of_visited {before after : Node} (visited : Visited before after) (keyed : Keyed before) :
    after = opened before := by
  have entries := entries_eq_of_keyed visited.entries keyed.opened
  have attributes : after.attributes = (opened before).attributes := by
    cases same : after.attributes
    cases other : (opened before).attributes
    simpa [same, other] using entries
  rw [visited.node, attributes]

/-- Two passes with the same result, that leave states behind which are related. -/
structure InStep {ε σ τ : Type} (R : σ → τ → Prop) (first : Pass ε σ) (second : Pass ε τ) : Prop where
  result : first.result = second.result
  state : R first.state second.state

/-- Two series of passes that are in step at every item are in step as a whole. -/
theorem inTurn_inStep {ε σ τ ι : Type} {R : σ → τ → Prop} {first : ι → σ → Pass ε σ} {second : ι → τ → Pass ε τ}
    {items : List ι} (steps : ∀ item ∈ items, ∀ s t, R s t → InStep R (first item s) (second item t)) {s : σ} {t : τ}
    (begun : R s t) : InStep R (Pass.inTurn first items s) (Pass.inTurn second items t) := by
  induction items generalizing s t with
  | nil => exact ⟨rfl, begun⟩
  | cons item items ih =>
    obtain ⟨here, later⟩ := List.forall_mem_cons.mp steps
    obtain ⟨result, alike⟩ := here s t begun
    rw [Pass.inTurn, Pass.inTurn]
    cases ended : (second item t).result with
    | error failure =>
      rw [ended] at result
      rw [andThen_of_error _ result, andThen_of_error _ ended]
      exact ⟨result.trans ended.symm, alike⟩
    | ok issues =>
      obtain ⟨sameResult, sameState⟩ := ih later alike
      rw [ended] at result
      rw [andThen_of_ok _ result, andThen_of_ok _ ended, sameResult]
      exact ⟨rfl, sameState⟩

/-- Whether the nodes below its target have been opened makes no difference to the rule. -/
def Overlooks : Rule → Prop
  | .check _ run => ∀ options node below,
      run options (.node node below) = run options (.node node (Tree.mapAll opened below))
  | .fanOut _ => True

section Visit

variable {rules : List Rule} {below other : List (Tree Node)}

private theorem ask_inStep (request : Request) {rule : Rule} (overlooks : Overlooks rule)
    (alike : Tree.mapAll opened below = Tree.mapAll opened other) (node : Node) :
    InStep Eq (Linter.ask request below rule node) (Linter.ask request other rule node) := by
  cases rule with
  | check profile run =>
    have same : run request.options (.node node below) = run request.options (.node node other) := by
      rw [overlooks, overlooks _ _ other, alike]
    constructor
    case result => simp only [Linter.ask, onFailure_result, Rule.onNode, same]
    case state => simp only [Linter.ask, onFailure_state, Rule.onNode]
  | fanOut subscribers => exact ⟨rfl, rfl⟩

theorem visit_inStep (request : Request) (overlook : ∀ rule ∈ rules, Overlooks rule)
    (alike : Tree.mapAll opened below = Tree.mapAll opened other) {first second : Node}
    (same : opened first = opened second) :
    InStep Eq (Linter.visit rules request below first) (Linter.visit rules request other second) := by
  have asked (below : List (Tree Node)) (node : Node) : ∃ notices, Linter.visit rules request below node =
      (Pass.notices (opened node) notices).andThen
        (Pass.inTurn (Linter.ask request below) (rules.filter (·.firesOn (opened node).type))) := by
    rw [visit_eq, opened_type]
    split
    · exact ⟨_, rfl⟩
    · exact ⟨[], rfl⟩
  obtain ⟨notices, firstAsked⟩ := asked below first
  obtain ⟨others, secondAsked⟩ := asked other second
  obtain ⟨result, state⟩ : InStep Eq
      (Pass.inTurn (Linter.ask request below) (rules.filter (·.firesOn (opened second).type)) (opened second))
      (Pass.inTurn (Linter.ask request other) (rules.filter (·.firesOn (opened second).type)) (opened second)) := by
    apply inTurn_inStep _ rfl
    rintro rule member node _ rfl
    exact ask_inStep request (overlook rule (List.mem_filter.mp member).1) alike node
  rw [firstAsked, secondAsked, same, andThen_of_ok _ rfl, andThen_of_ok _ rfl]
  exact ⟨congrArg (Except.map ([] ++ ·)) result, state⟩

end Visit

section Run

variable {n : Nat}

/-- Nodes that come to be the same once they are opened. -/
def OpenAlike (first second : Vector Node n) : Prop :=
  ∀ j : Fin n, opened (first.get j) = opened (second.get j)

theorem visitAll_inStep {rules : List Rule} (overlook : ∀ rule ∈ rules, Overlooks rule) (request : Request)
    (branches : List (Tree (Fin n))) {first second : Vector Node n} (same : OpenAlike first second) :
    InStep OpenAlike (Linter.visitAll rules request branches first)
      (Linter.visitAll rules request branches second) := by
  apply inTurn_inStep _ same
  intro branch _ s t alike
  have below : Tree.mapAll opened (Linter.below s branch) = Tree.mapAll opened (Linter.below t branch) := by
    rw [Linter.below, Linter.below, mapAll_mapAll, mapAll_mapAll]
    exact mapAll_congr fun j _ => alike j
  obtain ⟨result, state⟩ := visit_inStep request overlook below (alike branch.label)
  refine ⟨result, fun j => ?_⟩
  change opened ((s.set branch.label _ branch.label.isLt).get j) =
    opened ((t.set branch.label _ branch.label.isLt).get j)
  rw [state]
  by_cases here : branch.label = j
  · subst here
    rw [set_here, set_here]
  · rw [set_elsewhere s here, set_elsewhere t here]
    exact alike j

variable {branches : List (Tree (Fin n))} {nodes : Vector Node n} (rules : List Rule) (request : Request)

/-- However a run ends, it has opened a node and no more than that, or left it alone. -/
theorem same_or_opened (keyed : ∀ i ∈ branches.map Tree.label, Keyed (nodes.get i)) (j : Fin n) :
    (Linter.visitAll rules request branches nodes).state.get j = nodes.get j ∨ j ∈ branches.map Tree.label ∧
      (Linter.visitAll rules request branches nodes).state.get j = opened (nodes.get j) := by
  by_cases member : j ∈ branches.map Tree.label
  · rcases visitAll_touched rules request branches nodes j with same | visited
    · exact .inl same
    · exact .inr ⟨member, eq_opened_of_visited visited (keyed j member)⟩
  · exact .inl (visitAll_elsewhere member)

theorem opened_visitAll (keyed : ∀ i ∈ branches.map Tree.label, Keyed (nodes.get i)) :
    OpenAlike (Linter.visitAll rules request branches nodes).state nodes := by
  intro j
  rcases same_or_opened rules request keyed j with same | ⟨-, same⟩
  · rw [same]
  · rw [same, Visited.opened (Renamed.refl (opened (nodes.get j)))]

private theorem keyed_visitAll (keyed : ∀ i ∈ branches.map Tree.label, Keyed (nodes.get i)) :
    ∀ i ∈ branches.map Tree.label, Keyed ((Linter.visitAll rules request branches nodes).state.get i) := by
  intro i member
  rcases same_or_opened rules request keyed i with same | ⟨-, same⟩
  · rw [same]
    exact keyed i member
  · rw [same]
    exact (keyed i member).opened

/-- Once every node has been opened, a run changes none. -/
theorem visitAll_of_opened (keyed : ∀ i ∈ branches.map Tree.label, Keyed (nodes.get i))
    (settled : ∀ i ∈ branches.map Tree.label, opened (nodes.get i) = nodes.get i) :
    (Linter.visitAll rules request branches nodes).state = nodes := by
  have unchanged : ∀ i : Fin n, (Linter.visitAll rules request branches nodes).state.get i = nodes.get i := by
    intro i
    rcases same_or_opened rules request keyed i with same | ⟨member, same⟩
    · exact same
    · exact same.trans (settled i member)
  ext j inside
  exact unchanged ⟨j, inside⟩

end Run

private theorem overlooks_runRules {linter : Linter} (overlook : ∀ rule ∈ linter.nodeRules, Overlooks rule) :
    ∀ rule ∈ linter.runRules, Overlooks rule := by
  unfold Linter.runRules
  split
  · exact overlook
  · exact List.forall_mem_cons.mpr ⟨trivial, overlook⟩

def element (name : String) (tag : OpenTag) : Node :=
  { name, openTag := tag, attributes := tag.attributes }

def menu : Vector Node 3 :=
  #v[element "p" ⟨"p class='a  a'", 0⟩, element "a" ⟨"a HREF=x ID=y title", 16⟩, element "img" ⟨"img ID=z id", 40⟩]

/-- Reports the children of a node that have not been annotated. -/
def waiting : Rule :=
  let profile : Profile := { kind := { name := "Waiting" }, name := "waiting", description := "Waits", on := [.tag] }
  .check profile fun _ target =>
    match target with
    | .attr _ => .ok []
    | .node _ below =>
      .ok ((below.filter (!·.label.attributesResolved)).map fun child =>
        profile.issue ("<" ++ child.label.name ++ "> waits") (some child.label.openTag.index))

/-- A run annotates the children of a node only after the rules for that node have seen them, so the next run shows them
otherwise. -/
theorem waiting_child_is_reported_once :
    let linter : Linter := ⟨[waiting]⟩
    let forest : List (Tree (Fin 2)) := [.node 0 [.node 1 []]]
    let nodes : Vector Node 2 := #v[element "div" ⟨"div", 0⟩, element "p" ⟨"p id=x", 5⟩]
    let between := (linter.lint {} forest nodes).state
    (∀ i ∈ Tree.preorderAll forest, Keyed (nodes.get i)) ∧
      (linter.lint {} forest nodes).result.toOption.map (·.map (·.message)) = some ["<p> waits"] ∧
      (linter.lint {} forest between).result.toOption.map (·.map (·.message)) = some [] ∧
      (linter.lint {} forest between).result ≠ (linter.lint {} forest nodes).result := by
  intro linter forest nodes between
  have before : (linter.lint {} forest nodes).result.toOption.map (·.map (·.message)) = some ["<p> waits"] := by
    decide +kernel
  have after : (linter.lint {} forest between).result.toOption.map (·.map (·.message)) = some [] := by decide +kernel
  refine ⟨by decide +kernel, before, after, ?_⟩
  intro same
  rw [same, before] at after
  contradiction

/-- A run gives the same, issues or failure, whether or not another run came before it, if its rules for nodes make no
difference between nodes below that have been opened and nodes that have not. Whatever the rules, once a run has
succeeded no further run changes a node. -/
theorem lint_ignores_earlier_run {n : Nat} (first second : Linter) (before after : Request)
    (forest : List (Tree (Fin n))) (nodes : Vector Node n)
    (keyed : ∀ i ∈ Tree.preorderAll forest, Keyed (nodes.get i)) :
    let between := (first.lint before forest nodes).state
    ((∀ rule ∈ second.nodeRules, Overlooks rule) →
      (second.lint after forest between).result = (second.lint after forest nodes).result) ∧
    ((first.lint before forest nodes).result.isOk = true → (second.lint after forest between).state = between) := by
  intro between
  have state : between = (Linter.visitAll first.runRules before (Tree.branchesAll forest) nodes).state :=
    state_lint first before forest nodes
  rw [← label_branchesAll] at keyed
  constructor
  · intro overlook
    have alike := visitAll_inStep (overlooks_runRules overlook) after (Tree.branchesAll forest)
      (opened_visitAll first.runRules before keyed)
    rw [result_lint, result_lint, state, alike.result]
  · intro succeeded
    rw [result_lint] at succeeded
    cases ended : (Linter.visitAll first.runRules before (Tree.branchesAll forest) nodes).result with
    | error failure =>
      rw [ended] at succeeded
      contradiction
    | ok issues =>
      rw [state_lint, state]
      apply visitAll_of_opened
      · exact keyed_visitAll first.runRules before keyed
      · exact fun i member => (visitAll_visited ended member).opened

/-- Reports the elements with nothing below them. -/
def hollow : Rule :=
  let profile : Profile := { kind := { name := "Hollow" }, name := "hollow", description := "Fills", on := [.tag] }
  .check profile fun _ target =>
    match target with
    | .attr _ => .ok []
    | .node node below => .ok (if below.isEmpty then [profile.issue (node.name ++ " is hollow") none] else [])

theorem broken_run_on_menu_is_ignored :
    let broken : Linter := ⟨[waiting, .imgReqAlt, FirstFailure.brittle]⟩
    let second := Linter.default.register hollow
    let request : Request := { source? := some "<p class='a  a'><a HREF=x ID=y title>+</a><img ID=z id>" }
    let forest : List (Tree (Fin 3)) := [.node 0 [.node 1 []], .node 2 []]
    let between := (broken.lint {} forest menu).state
    let after := (Linter.default.lint request forest menu).state
    (broken.lint {} forest menu).result.isOk = false ∧
      between.toList.map (·.attributesResolved) = [true, true, false] ∧
      (second.lint request forest between).result = (second.lint request forest menu).result ∧
      (second.lint request forest after).state = after := by
  intro broken second request forest between after
  have keyed : ∀ i ∈ Tree.preorderAll forest, Keyed (menu.get i) := by decide +kernel
  have rules : second.nodeRules = [.classNoDup, .imgReqAlt, .selfClose .always, hollow] := rfl
  have overlook : ∀ rule ∈ second.nodeRules, Overlooks rule := by
    rw [rules]
    simp only [List.forall_mem_cons, List.not_mem_nil, false_implies, implies_true, and_true]
    refine ⟨fun _ _ _ => rfl, fun _ _ _ => rfl, fun _ _ _ => rfl, fun _ _ below => ?_⟩
    cases below <;> rfl
  refine ⟨by decide +kernel, by decide +kernel, ?_, ?_⟩
  · exact (lint_ignores_earlier_run broken second {} request forest menu keyed).1 overlook
  · have succeeded : (Linter.default.lint request forest menu).result.isOk = true := by decide +kernel
    exact (lint_ignores_earlier_run Linter.default second request request forest menu keyed).2 succeeded

end TagLint.Proofs.RepeatedRuns
