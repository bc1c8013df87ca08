import TagLint.Proofs.NodeStates

/-! The order of a run. Where no rule fails, the agendas of the nodes in document order are all that is done, and each
rule finds its target prepared. -/

namespace TagLint.Proofs.RunOrder
open PassPlans Agendas NodeStates Branches

variable {linter : Linter} {options : Datum} {below : List (Tree Node)} {node : Node} {call : Invocation}
  {attr : Attribute}

/-- An attribute that a subscriber has seen stands in a node under its own name. -/
structure Shown (attr : Attribute) (node : Node) : Prop where
  element : node.isElement = true
  resolved : node.attributesResolved = true
  entry : (attr.name, attr) ∈ node.attributes.entries

theorem Shown.named (shown : Shown attr node) : Shown attr (named node) :=
  ⟨shown.element, shown.resolved, List.mem_map.mpr ⟨_, shown.entry, rfl⟩⟩

theorem Shown.leftInTurn (shown : Shown attr node) (rules : List Rule) : Shown attr (leftInTurn rules node) := by
  induction rules generalizing node with
  | nil => exact shown
  | cons rule rules ih =>
    cases rule with
    | check profile run => exact ih shown
    | fanOut subscribers => exact ih shown.named

theorem Shown.leaves (shown : Shown attr node) (linter : Linter) : Shown attr (leaves linter node) := by
  have same : opened node = node := by simp [opened, Node.annotated, shown.resolved]
  apply Shown.leftInTurn
  rw [ready, same]
  split
  · exact shown.named
  · exact shown

theorem Shown.documentAfter {n : Nat} {nodes : Vector Node n} {i : Fin n} (shown : Shown attr (nodes.get i))
    (linter : Linter) (branches : List (Tree (Fin n))) :
    Shown attr ((documentAfter linter branches nodes).get i) := by
  induction branches generalizing nodes with
  | nil => exact shown
  | cons branch branches ih =>
    change Shown attr ((Agendas.documentAfter linter branches (afterVisit linter nodes branch.label)).get i)
    apply ih
    rw [afterVisit]
    by_cases same : branch.label = i
    · subst same
      rw [set_here]
      exact shown.leaves linter
    · rw [set_elsewhere nodes same]
      exact shown

private theorem shown_of_mem_shows {subscribers : List Rule} (element : node.isElement = true)
    (resolved : node.attributesResolved = true) (member : call ∈ shows options subscribers node)
    (target : call.target = .attr attr) : Shown attr (named node) := by
  simp only [shows, deliveries, List.mem_flatMap, List.mem_map] at member
  obtain ⟨⟨key, before⟩, entry, rule, -, rfl⟩ := member
  cases target
  exact ⟨element, resolved, List.mem_map.mpr ⟨_, entry, rfl⟩⟩

private theorem shown_of_mem_callsInTurn {rules : List Rule}
    (ready : ∀ subscribers, Rule.fanOut subscribers ∈ rules → node.isElement = true ∧ node.attributesResolved = true)
    (member : call ∈ callsInTurn options below rules node) (target : call.target = .attr attr) :
    Shown attr (leftInTurn rules node) := by
  induction rules generalizing node with
  | nil => contradiction
  | cons rule rules ih =>
    rw [callsInTurn, List.mem_append] at member
    cases rule with
    | check profile run =>
      rcases member with here | later
      · rw [calls, List.mem_singleton] at here
        rw [here] at target
        contradiction
      · exact ih (fun subscribers among => ready subscribers (List.mem_cons_of_mem _ among)) later
    | fanOut subscribers =>
      obtain ⟨element, resolved⟩ := ready subscribers List.mem_cons_self
      rcases member with here | later
      · exact (shown_of_mem_shows element resolved here target).leftInTurn rules
      · exact ih (fun _ _ => ⟨element, resolved⟩) later

private theorem ready_keeps (linter : Linter) (node : Node) : (ready linter node).type = node.type ∧
    (ready linter node).attributesResolved = (opened node).attributesResolved := by
  unfold ready
  split <;> exact ⟨opened_type node, rfl⟩

private theorem shown_of_mem_agenda (member : call ∈ agenda linter options below node)
    (target : call.target = .attr attr) : Shown attr (leaves linter node) := by
  obtain ⟨type, resolved⟩ := ready_keeps linter node
  rw [agenda, List.mem_append] at member
  rcases member with here | later
  · cases element : node.isElement with
    | false => simp [element] at here
    | true =>
      rw [element, if_pos rfl] at here
      cases somebody : linter.rules.any (·.isAttributeRule) with
      | false =>
        rw [shows_of_nobody linter _ _ somebody] at here
        contradiction
      | true =>
        have same : ready linter node = named (opened node) := by
          rw [ready, element, somebody, Bool.and_true, if_pos rfl]
        have isElement : (opened node).isElement = true := (opened_isElement node).trans element
        rw [leaves, same]
        exact (shown_of_mem_shows isElement (opened_resolved element) here target).leftInTurn _
  · apply shown_of_mem_callsInTurn _ later target
    -- only elements have a fan-out fire on them
    intro subscribers among
    have element : node.isElement = true := (mem_firing.mp among).2.2
    rw [Node.isElement, type, resolved]
    exact ⟨element, opened_resolved element⟩

theorem shown_of_mem_documentCalls {n : Nat} {branches : List (Tree (Fin n))} {nodes : Vector Node n}
    (member : call ∈ documentCalls linter options branches nodes) (target : call.target = .attr attr) :
    ∃ i ∈ branches.map Tree.label, Shown attr ((documentAfter linter branches nodes).get i) := by
  obtain ⟨before, branch, later, rfl, here⟩ := mem_documentCalls member
  refine ⟨branch.label, by simp, ?_⟩
  rw [documentAfter, List.foldl_append, List.foldl_cons, ← documentAfter, ← documentAfter]
  apply Shown.documentAfter
  rw [afterVisit, set_here]
  exact shown_of_mem_agenda here target

/-- How a rule for nodes finds a node that was `before` at the start of the run. -/
structure Fits (linter : Linter) (rule : Rule) (before node : Node) : Prop where
  registered : rule ∈ linter.rules
  forNodes : rule.isAttributeRule = false
  fires : rule.firesOn node.type = true
  resolved : node.isElement = true → node.attributesResolved = true
  annotated : node.isElement = true → Annotated before node

private theorem target_of_mem_shows {subscribers : List Rule} (member : call ∈ shows options subscribers node) :
    ∃ attr, call.target = .attr attr := by
  simp only [shows, deliveries, List.mem_flatMap, List.mem_map] at member
  obtain ⟨_, _, _, _, rfl⟩ := member
  exact ⟨_, rfl⟩

private theorem mem_callsInTurn {rules : List Rule} {seen : Node} {under : List (Tree Node)}
    (member : call ∈ callsInTurn options below rules node) (target : call.target = .node seen under) :
    call.rule ∈ rules ∧ Renamed node seen := by
  induction rules generalizing node with
  | nil => contradiction
  | cons rule rules ih =>
    rw [callsInTurn, List.mem_append] at member
    rcases member with here | later
    · cases rule with
      | check profile run =>
        rw [calls, List.mem_singleton] at here
        subst here
        cases target
        exact ⟨List.mem_cons_self, .refl _⟩
      | fanOut subscribers =>
        obtain ⟨attr, other⟩ := target_of_mem_shows here
        rw [target] at other
        contradiction
    · obtain ⟨among, renamed⟩ := ih later
      exact ⟨List.mem_cons_of_mem _ among, (renamed_left rule node).trans renamed⟩

private theorem visited_of_mem_agenda {seen : Node} {under : List (Tree Node)}
    (member : call ∈ agenda linter options below node) (target : call.target = .node seen under) :
    call.rule ∈ firing linter node.type ∧ Visited node seen := by
  rw [agenda, List.mem_append] at member
  rcases member with here | later
  · split at here
    · obtain ⟨attr, other⟩ := target_of_mem_shows here
      rw [target] at other
      contradiction
    · contradiction
  · obtain ⟨among, renamed⟩ := mem_callsInTurn later target
    exact ⟨among, Renamed.trans (visited_ready linter node) renamed⟩

theorem fits_of_mem_documentCalls {n : Nat} {branches : List (Tree (Fin n))} {nodes : Vector Node n} {seen : Node}
    {under : List (Tree Node)} (member : call ∈ documentCalls linter options branches nodes)
    (target : call.target = .node seen under) :
    ∃ i ∈ branches.map Tree.label, Fits linter call.rule (nodes.get i) seen := by
  obtain ⟨before, branch, later, rfl, here⟩ := mem_documentCalls member
  obtain ⟨among, visited⟩ := visited_of_mem_agenda here target
  obtain ⟨registered, forNodes, fires⟩ := mem_firing.mp among
  rw [← visited.type] at fires
  have all : Visited (nodes.get branch.label) seen := by
    rcases documentAfter_touched linter before nodes branch.label with same | earlier
    · rwa [same] at visited
    · exact earlier.trans visited
  refine ⟨branch.label, by simp, registered, forNodes, fires, ?_, ?_⟩
  · exact all.resolved
  · intro element
    exact all.annotated (all.isElement ▸ element)

/-- A rule that fires on a node that passes for an attribute would be no rule for nodes. -/
theorem Fits.type_ne_attr {rule : Rule} {before : Node} (fits : Fits linter rule before node) : node.type ≠ .attr := by
  intro type
  have fires := fits.fires
  rw [type] at fires
  exact Bool.eq_false_iff.mp fits.forNodes fires

section Lint

variable {n : Nat} (linter : Linter) (request : Request) (forest : List (Tree (Fin n))) (nodes : Vector Node n)

theorem invocations_lint : invocations (linter.lint request forest nodes) =
    invocations (Linter.visitAll linter.runRules request (Tree.branchesAll forest) nodes) := by
  rw [← walkAll_branchedAll]
  unfold Linter.lint
  dsimp only
  split
  · rfl
  · simp [invocations, invocation?]

theorem lint_of_ok {issues : List Issue}
    (succeeded : (Linter.visitAll linter.runRules request (Tree.branchesAll forest) nodes).result = .ok issues) :
    (linter.lint request forest nodes).result = .ok (Linter.located request.source? issues) ∧
      (linter.lint request forest nodes).state =
        (Linter.visitAll linter.runRules request (Tree.branchesAll forest) nodes).state := by
  rw [← walkAll_branchedAll] at succeeded ⊢
  unfold Linter.lint
  dsimp only
  rw [succeeded]
  exact ⟨rfl, rfl⟩

/-- A run whose invocations are all answered has made all that were due. -/
theorem due_of_made (answered : ∀ call ∈ invocations (linter.lint request forest nodes), call.answer.isOk = true) :
    invocations (linter.lint request forest nodes) =
      documentCalls linter request.options (Tree.branchesAll forest) nodes := by
  obtain ⟨plan, follows, planned⟩ := follows_document linter request (Tree.branchesAll forest) nodes
  rw [invocations_lint] at answered ⊢
  rw [(follows.succeeds answered).1, planned]

/-- Where all that is due is answered, all of it is done. -/
theorem lint_of_due
    (answered : ∀ call ∈ documentCalls linter request.options (Tree.branchesAll forest) nodes,
      call.answer.isOk = true) :
    invocations (linter.lint request forest nodes) =
        documentCalls linter request.options (Tree.branchesAll forest) nodes ∧
      (linter.lint request forest nodes).result = .ok (Linter.located request.source?
        ((documentCalls linter request.options (Tree.branchesAll forest) nodes).flatMap (·.issues))) := by
  obtain ⟨plan, follows, planned⟩ := follows_document linter request (Tree.branchesAll forest) nodes
  obtain ⟨made, result, -⟩ := follows.succeeds fun call member => by
    rw [follows.calls] at member
    exact answered call (planned ▸ mem_plan_of_reached member)
  rw [made, planned] at result
  refine ⟨?_, (lint_of_ok linter request forest nodes result).1⟩
  rw [invocations_lint, made, planned]

/-- A run that does all of its plan, and what it gives for it. -/
structure RunsInOrder (run : Pass DocumentFailure (Vector Node n)) : Prop where
  sequence : invocations run = documentCalls linter request.options (Tree.branchesAll forest) nodes
  order : (Tree.branchesAll forest).map Tree.label = Tree.preorderAll forest
  distinct : (Tree.preorderAll forest).Nodup → invocations run = (Tree.branchesAll forest).flatMap fun branch =>
    agenda linter request.options (Linter.below nodes branch) (nodes.get branch.label)
  unplaced : request.source? = none → run.result = .ok ((invocations run).flatMap (·.issues))
  placed : ∀ source, request.source? = some source →
    run.result = .ok (((invocations run).flatMap (·.issues)).map fun issue =>
      match issue.index? with
      | some index => issue.placed ((SourceMap.ofText source).position index)
      | none => issue)
  attributes : ∀ call ∈ invocations run, ∀ attr, call.target = .attr attr →
    ∃ i ∈ Tree.preorderAll forest, Shown attr (run.state.get i) ∧ Annotated (nodes.get i) (run.state.get i)
  nodes : ∀ call ∈ invocations run, ∀ node below, call.target = .node node below →
    node.type ≠ .attr ∧ ∃ i ∈ Tree.preorderAll forest, Fits linter call.rule (nodes.get i) node

/-- Unless a rule fails, a run makes the invocations of its nodes' agendas in document order and gives all their issues
in the same order. -/
theorem lint_runs_in_order
    (answered : ∀ call ∈ invocations (linter.lint request forest nodes), call.answer.isOk = true) :
    RunsInOrder linter request forest nodes (linter.lint request forest nodes) := by
  obtain ⟨plan, follows, planned⟩ := follows_document linter request (Tree.branchesAll forest) nodes
  have sequence := due_of_made linter request forest nodes answered
  rw [invocations_lint] at answered
  obtain ⟨-, result, state⟩ := follows.succeeds answered
  obtain ⟨located, unchanged⟩ := lint_of_ok linter request forest nodes result
  have order := label_branchesAll forest
  rw [← invocations_lint] at located
  constructor
  case sequence => exact sequence
  case order => exact order
  case distinct =>
    intro distinct
    rw [sequence, documentCalls_of_nodup linter _ _ distinct]
  case unplaced =>
    intro absent
    rw [located, absent, Linter.located]
  case placed =>
    intro source present
    rw [located, present, Linter.located]
    rfl
  case attributes =>
    intro call member attr target
    rw [sequence] at member
    obtain ⟨i, among, shown⟩ := shown_of_mem_documentCalls member target
    have visited := visitAll_visited result among
    rw [← state, ← unchanged] at shown
    rw [← unchanged] at visited
    exact ⟨i, order ▸ among, shown, visited.annotated (visited.isElement ▸ shown.element)⟩
  case nodes =>
    intro call member node below target
    rw [sequence] at member
    obtain ⟨i, among, fits⟩ := fits_of_mem_documentCalls member target
    exact ⟨fits.type_ne_attr, i, order ▸ among, fits⟩

end Lint

def page : Vector Node 4 :=
  #v[{ name := "div", openTag := ⟨"div ID='a b' class=x", 0⟩,
       attributes := .ofList
         [("class", { name := "CLASS", value? := some "x" }), ("id", { name := "ID", value? := some "a b" })] },
     { type := .text, data? := some "t" },
     { name := "img", openTag := ⟨"img", 23⟩ },
     { type := .attr, name := "id" }]

theorem page_runs_in_order :
    let request : Request := { source? := some "<div ID='a b' class=x>t<img>" }
    let forest : List (Tree (Fin 4)) := [.node 0 [.node 1 [], .node 2 []], .node 3 []]
    let run := Linter.default.lint request forest page
    RunsInOrder Linter.default request forest page run ∧
      (invocations run).map (fun call => (call.rule.name, call.target.name)) =
        [("attr-quote-style", "class"), ("attr-quote-style", "id"), ("id-no-whitespace", "id"), ("class-no-dup", "div"),
          ("img-req-alt", "div"), ("tag-self-close", "div"), ("class-no-dup", "img"), ("img-req-alt", "img"),
          ("tag-self-close", "img")] :=
  ⟨lint_runs_in_order _ _ _ _ (by decide +kernel), by decide +kernel⟩

end TagLint.Proofs.RunOrder
