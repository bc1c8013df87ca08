import TagLint.Proofs.Culprits
import TagLint.Proofs.KeyedRuns

/-! What a run makes of the list of its rules. The rules for attributes and those for nodes may be shuffled into one
another, and a rule that is taken away takes its own issues with it and nothing else. -/

namespace TagLint.Proofs.RuleLists
open PassPlans Agendas Branches RepeatedRuns KeyedRuns Culprits

section Kinds

variable {rules subscribers others : List Rule}

private theorem runRules_of_kinds (attributes : rules.filter (·.isAttributeRule) = subscribers)
    (nodes : rules.filter (!·.isAttributeRule) = others) (listening : subscribers ≠ []) :
    Linter.runRules ⟨rules⟩ = .fanOut subscribers :: others := by
  unfold Linter.runRules Linter.subscribers Linter.nodeRules
  dsimp only
  rw [attributes, nodes]
  cases subscribers with
  | nil => contradiction
  | cons rule rest => rfl

private theorem filter_split (keep : Rule → Bool) (rules : List Rule) :
    (rules.filter keep ++ rules.filter (!keep ·)).filter keep = rules.filter keep ∧
      (rules.filter keep ++ rules.filter (!keep ·)).filter (!keep ·) = rules.filter (!keep ·) := by
  simp [List.filter_append, List.filter_filter]

/-- Nobody listens on attributes once a fan-out is registered in the place of the subscribers. -/
theorem runRules_of_fanOut (nodes : rules.filter (!·.isAttributeRule) = others) :
    Linter.runRules ⟨.fanOut subscribers :: others⟩ = .fanOut subscribers :: others := by
  have plain : ∀ rule ∈ Rule.fanOut subscribers :: others, rule.isAttributeRule = false := by
    rw [List.forall_mem_cons]
    refine ⟨rfl, fun rule member => ?_⟩
    rw [← nodes] at member
    simpa using (List.mem_filter.mp member).2
  have nobody : (Rule.fanOut subscribers :: others).filter (·.isAttributeRule) = [] :=
    List.filter_eq_nil_iff.mpr fun rule member => by simp [plain rule member]
  have all : (Rule.fanOut subscribers :: others).filter (!·.isAttributeRule) = .fanOut subscribers :: others :=
    List.filter_eq_self.mpr fun rule member => by simp [plain rule member]
  unfold Linter.runRules Linter.subscribers Linter.nodeRules
  dsimp only
  rw [nobody, all]

theorem lint_of_runRules {first second : Linter} (same : first.runRules = second.runRules) {n : Nat} (request : Request)
    (forest : List (Tree (Fin n))) (nodes : Vector Node n) :
    first.lint request forest nodes = second.lint request forest nodes := by
  unfold Linter.lint
  rw [same]

/-- Runs are the same, in all that they do, return and leave behind, whenever the rules for attributes come in the same
order and the rules for nodes do. A registered fan-out does for the subscribers what the linter does for them. -/
theorem only_order_within_kinds_matters (rules : List Rule)
    (attributes : rules.filter (·.isAttributeRule) = subscribers)
    (forNodes : rules.filter (!·.isAttributeRule) = others) (listening : subscribers ≠ []) {n : Nat} (request : Request)
    (forest : List (Tree (Fin n))) (nodes : Vector Node n) :
    let run := Linter.lint ⟨rules⟩ request forest nodes
    (∀ shuffled : List Rule, shuffled.filter (·.isAttributeRule) = subscribers →
      shuffled.filter (!·.isAttributeRule) = others → Linter.lint ⟨shuffled⟩ request forest nodes = run) ∧
    Linter.lint ⟨subscribers ++ others⟩ request forest nodes = run ∧
    Linter.lint ⟨.fanOut subscribers :: others⟩ request forest nodes = run := by
  intro run
  have asked := runRules_of_kinds attributes forNodes listening
  have shuffle : ∀ shuffled : List Rule, shuffled.filter (·.isAttributeRule) = subscribers →
      shuffled.filter (!·.isAttributeRule) = others → Linter.lint ⟨shuffled⟩ request forest nodes = run := by
    intro shuffled sameAttributes sameNodes
    apply lint_of_runRules
    rw [runRules_of_kinds sameAttributes sameNodes listening, asked]
  refine ⟨shuffle, ?_, ?_⟩
  · obtain ⟨first, last⟩ := filter_split (·.isAttributeRule) rules
    rw [attributes, forNodes] at first last
    exact shuffle _ first last
  · apply lint_of_runRules
    rw [runRules_of_fanOut forNodes, asked]

end Kinds

theorem article_rules_may_be_shuffled :
    let rules : List Rule := [.imgReqAlt, FirstFailure.brittle, .fanOut [.idNoWhitespace], .quoteStyle .double]
    let request : Request := { file? := some "a.html" }
    let forest : List (Tree (Fin 3)) := [.node 0 [.node 1 []], .node 2 []]
    let run := Linter.lint ⟨rules⟩ request forest FirstFailure.article
    run.result.isOk = false ∧
      Linter.lint ⟨[FirstFailure.brittle, .quoteStyle .double, .imgReqAlt, .fanOut [.idNoWhitespace]]⟩ request forest
        FirstFailure.article = run ∧
      Linter.lint ⟨[.fanOut [FirstFailure.brittle, .quoteStyle .double], .imgReqAlt, .fanOut [.idNoWhitespace]]⟩ request
        forest FirstFailure.article = run := by
  intro rules request forest run
  refine ⟨by decide +kernel, ?_⟩
  exact (only_order_within_kinds_matters rules rfl rfl (List.cons_ne_nil _ _) request forest _).2

/-- An invocation with the registered rule that it belongs to: the invoked rule itself or, for one that a registered
fan-out speaks for, that fan-out. -/
structure Charge where
  rule : Rule
  call : Invocation

/-- The agenda of a node, with the registered rules that stand behind it. -/
def charges (linter : Linter) (options : Datum) (below : List (Tree Node)) (node : Node) : List Charge :=
  (if node.isElement then (shows options linter.subscribers (opened node)).map fun call => ⟨call.rule, call⟩ else []) ++
    (firing linter node.type).flatMap fun rule => (calls options below rule (opened node)).map (Charge.mk rule)

section Node

variable {options : Datum} {below : List (Tree Node)} {node : Node}

private theorem callsInTurn_of_steady {rules : List Rule} (steady : Steady node)
    (fire : ∀ rule ∈ rules, rule.firesOn node.type = true) :
    callsInTurn options below rules node = rules.flatMap fun rule => calls options below rule node := by
  induction rules with
  | nil => rfl
  | cons rule rules ih =>
    obtain ⟨fires, fire⟩ := List.forall_mem_cons.mp fire
    rw [callsInTurn, left_of_steady steady fires, ih fire, List.flatMap_cons]

private theorem call_charges (linter : Linter) (steady : Steady node) :
    (charges linter options below node).map (·.call) = agenda linter options below node := by
  have fire : ∀ rule ∈ firing linter node.type, rule.firesOn (opened node).type = true := by
    intro rule member
    rw [opened_type]
    exact (mem_firing.mp member).2.2
  rw [charges, agenda, ready_of_steady linter steady, callsInTurn_of_steady steady.opened fire, List.map_append,
    List.map_flatMap]
  congr 1
  · split
    · simp [Function.comp_def, Linter.subscribers]
    · rfl
  · simp [Function.comp_def]

private theorem culprit_of_mem_charges {linter : Linter} {charge : Charge}
    (member : charge ∈ charges linter options below node) : ∃ asked, Culprit linter charge.call charge.rule asked := by
  rw [charges, List.mem_append] at member
  rcases member with shown | asked
  · split at shown
    · obtain ⟨call, member, rfl⟩ := List.mem_map.mp shown
      obtain ⟨among, attr, seen, wants⟩ := mem_shows member
      exact ⟨_, .subscriber seen among wants⟩
    · contradiction
  · obtain ⟨rule, fires, here⟩ := List.mem_flatMap.mp asked
    obtain ⟨call, member, rfl⟩ := List.mem_map.mp here
    obtain ⟨registered, forNodes, -⟩ := mem_firing.mp fires
    cases rule with
    | check profile run =>
      rw [calls, List.mem_singleton] at member
      subst member
      exact ⟨_, .node rfl registered forNodes⟩
    | fanOut subscribers =>
      obtain ⟨among, attr, seen, wants⟩ := mem_shows member
      exact ⟨_, .fanOut seen among wants registered⟩

private theorem shows_filter (keep : Rule → Bool) (subscribers : List Rule) :
    shows options (subscribers.filter keep) node = (shows options subscribers node).filter (keep ·.rule) := by
  rw [shows, shows, List.filter_flatMap]
  apply List.flatMap_congr
  rintro ⟨key, attr⟩ -
  change deliveries options (subscribers.filter keep) key attr =
    (deliveries options subscribers key attr).filter (keep ·.rule)
  rw [deliveries, deliveries, List.filter_map, List.filter_comm]
  rfl

private theorem flatMap_filter_rule (keep : Rule → Bool) (rules : List Rule) (made : Rule → List Invocation) :
    ((rules.filter keep).flatMap fun rule => (made rule).map (Charge.mk rule)) =
      (rules.flatMap fun rule => (made rule).map (Charge.mk rule)).filter (keep ·.rule) := by
  induction rules with
  | nil => rfl
  | cons rule rules ih =>
    rw [List.flatMap_cons, List.filter_append, ← ih, List.filter_map, List.filter_cons]
    split
    next kept => simp [Function.comp_def, kept]
    next removed => simp [Function.comp_def, removed]

theorem charges_unregister (linter : Linter) (kind : String) :
    charges (linter.unregister kind) options below node =
      (charges linter options below node).filter (!·.rule.kind.isA kind) := by
  have subscribers : (linter.unregister kind).subscribers = linter.subscribers.filter (!·.kind.isA kind) :=
    List.filter_comm ..
  have fired : firing (linter.unregister kind) node.type =
      (firing linter node.type).filter (!·.kind.isA kind) := List.filter_comm ..
  rw [charges, charges, subscribers, fired, List.filter_append, shows_filter,
    ← flatMap_filter_rule (!·.kind.isA kind)]
  congr 1
  split
  · rw [List.filter_map]
    rfl
  · rfl

end Node

/-- A run that makes the invocations of a list, all of which are answered, and gives their issues in the same order. -/
structure Makes {n : Nat} (request : Request) (made : List Charge) (run : Pass DocumentFailure (Vector Node n)) : Prop
    where
  calls : invocations run = made.map (·.call)
  answered : ∀ charge ∈ made, charge.call.answer.isOk = true
  result : run.result = .ok (made.flatMap fun charge => Linter.located request.source? charge.call.issues)

section Run

variable {n : Nat} {linter : Linter} {request : Request} {forest : List (Tree (Fin n))} {nodes : Vector Node n}

/-- The charges of the nodes of a document that are visited in some order, each opened when its visit begins. -/
def allCharges (linter : Linter) (options : Datum) : List (Tree (Fin n)) → Vector Node n → List Charge
  | [], _ => []
  | branch :: branches, nodes =>
    charges linter options (Linter.below nodes branch) (nodes.get branch.label) ++
      allCharges linter options branches (openAt nodes branch.label)

theorem allCharges_of_nodup (linter : Linter) (options : Datum) {forest : List (Tree (Fin n))} (nodes : Vector Node n)
    (distinct : (Tree.preorderAll forest).Nodup) :
    allCharges linter options (Tree.branchesAll forest) nodes =
      (Tree.branchesAll forest).flatMap fun branch =>
        charges linter options (Linter.below nodes branch) (nodes.get branch.label) :=
  flatMap_of_apart (charges linter options) opened (fun _ => rfl) (fun _ _ _ => rfl) nodes (apart_branchesAll distinct)

private theorem call_allCharges (linter : Linter) (options : Datum) {branches : List (Tree (Fin n))}
    {nodes : Vector Node n} (steady : ∀ i ∈ branches.map Tree.label, Steady (nodes.get i)) :
    (allCharges linter options branches nodes).map (·.call) = documentCalls linter options branches nodes := by
  induction branches generalizing nodes with
  | nil => rfl
  | cons branch branches ih =>
    obtain ⟨here, later⟩ := List.forall_mem_cons.mp steady
    rw [allCharges, documentCalls, List.map_append, call_charges linter here, afterVisit_of_steady linter here,
      ih fun j member => (later j member).openAt branch.label]

private theorem mem_allCharges {options : Datum} {branches : List (Tree (Fin n))} {nodes : Vector Node n}
    {charge : Charge} (member : charge ∈ allCharges linter options branches nodes) :
    ∃ below node, charge ∈ charges linter options below node := by
  induction branches generalizing nodes with
  | nil => contradiction
  | cons branch branches ih =>
    rw [allCharges, List.mem_append] at member
    rcases member with here | later
    · exact ⟨_, _, here⟩
    · exact ih later

theorem allCharges_unregister (kind : String) (options : Datum) (branches : List (Tree (Fin n)))
    (nodes : Vector Node n) :
    allCharges (linter.unregister kind) options branches nodes =
      (allCharges linter options branches nodes).filter (!·.rule.kind.isA kind) := by
  induction branches generalizing nodes with
  | nil => rfl
  | cons branch branches ih => rw [allCharges, allCharges, charges_unregister, ih, List.filter_append]

private theorem makes_of_answered (steady : ∀ i ∈ Tree.preorderAll forest, Steady (nodes.get i))
    (answered : ∀ charge ∈ allCharges linter request.options (Tree.branchesAll forest) nodes,
      charge.call.answer.isOk = true) :
    Makes request (allCharges linter request.options (Tree.branchesAll forest) nodes)
      (linter.lint request forest nodes) := by
  rw [← label_branchesAll] at steady
  have same := call_allCharges linter request.options steady
  obtain ⟨calls, result⟩ := RunOrder.lint_of_due linter request forest nodes <| by
    rw [← same]
    exact List.forall_mem_map.mpr answered
  constructor
  case calls => rw [calls, same]
  case answered => exact answered
  case result => rw [result, ← same, List.flatMap_map, located_flatMap]

end Run

/-- Without the rules of a kind a run makes the same invocations but for theirs, so it gives the same issues but for
theirs, and leaves the nodes as it would with them. -/
theorem unregister_deletes_issues {n : Nat} (linter : Linter) (kind : String) (request : Request)
    (forest : List (Tree (Fin n))) (nodes : Vector Node n) (keyed : ∀ i ∈ Tree.preorderAll forest, Keyed (nodes.get i))
    (answered : ∀ call ∈ invocations (linter.lint request forest nodes), call.answer.isOk = true) :
    let made := allCharges linter request.options (Tree.branchesAll forest) nodes
    let run := linter.lint request forest nodes
    let shorter := (linter.unregister kind).lint request forest nodes
    ((Tree.preorderAll forest).Nodup → made = (Tree.branchesAll forest).flatMap fun branch =>
      charges linter request.options (Linter.below nodes branch) (nodes.get branch.label)) ∧
    (∀ charge ∈ made, charge.rule ∈ linter.rules ∧ ∃ asked, Culprit linter charge.call charge.rule asked) ∧
      Makes request made run ∧ Makes request (made.filter (!·.rule.kind.isA kind)) shorter ∧
      shorter.state = run.state := by
  intro made run shorter
  have steady : ∀ i ∈ Tree.preorderAll forest, Steady (nodes.get i) := fun i member _ => keyed i member
  have due : ∀ charge ∈ made, charge.call.answer.isOk = true := by
    have same := call_allCharges linter request.options (label_branchesAll forest ▸ steady)
    rw [RunOrder.due_of_made linter request forest nodes answered, ← same] at answered
    exact List.forall_mem_map.mp answered
  have long : Makes request made run := makes_of_answered steady due
  have short : Makes request (made.filter (!·.rule.kind.isA kind)) shorter := by
    rw [← allCharges_unregister kind]
    apply makes_of_answered steady
    rw [allCharges_unregister kind]
    exact fun charge member => due charge (List.mem_filter.mp member).1
  refine ⟨allCharges_of_nodup linter request.options nodes, ?_, long, short, ?_⟩
  · intro charge member
    obtain ⟨below, node, here⟩ := mem_allCharges member
    obtain ⟨asked, known⟩ := culprit_of_mem_charges here
    exact ⟨known.registered, asked, known⟩
  · have same (j : Fin n) : shorter.state.get j = run.state.get j := by
      by_cases member : j ∈ Tree.preorderAll forest
      · rw [lint_opens keyed (by rw [short.result]; rfl) member, lint_opens keyed (by rw [long.result]; rfl) member]
      · rw [lint_elsewhere member, lint_elsewhere member]
    ext j inside
    exact same ⟨j, inside⟩

def cards : Vector Node 2 :=
  #v[element "p" ⟨"p ID='a b' class='x x'", 0⟩, element "img" ⟨"img id", 25⟩]

theorem cards_without_subscriber :
    let linter : Linter := ⟨[.idNoWhitespace, .fanOut [.idNoWhitespace], .classNoDup]⟩
    let request : Request := { source? := some "<p ID='a b' class='x x'>\n<img id>" }
    let forest : List (Tree (Fin 2)) := [.node 0 [.node 1 []]]
    let made := allCharges linter request.options (Tree.branchesAll forest) cards
    let run := linter.lint request forest cards
    let shorter := (linter.unregister "IdNoWhitespaceRule").lint request forest cards
    ((∀ charge ∈ made, charge.rule ∈ linter.rules ∧ ∃ asked, Culprit linter charge.call charge.rule asked) ∧
      Makes request made run ∧ Makes request (made.filter (!·.rule.kind.isA "IdNoWhitespaceRule")) shorter ∧
      shorter.state = run.state) ∧
    (run.result.toOption.map (·.map fun issue => (issue.rule, issue.line?)) =
      some [("id-no-whitespace", some 1), ("id-no-whitespace", some 1), ("class-no-dup", some 1),
        ("id-no-whitespace", some 2), ("id-no-whitespace", some 2)]) ∧
    shorter.result.toOption.map (·.map fun issue => (issue.rule, issue.line?)) =
      some [("id-no-whitespace", some 1), ("class-no-dup", some 1), ("id-no-whitespace", some 2)] := by
  intro linter request forest made run shorter
  refine ⟨?_, by decide +kernel, by decide +kernel⟩
  exact (unregister_deletes_issues linter "IdNoWhitespaceRule" request forest cards (by decide +kernel)
    (by decide +kernel)).2

end TagLint.Proofs.RuleLists
