import Mathlib.Data.List.Basic
import TagLint.Linter.Lint
import TagLint.Proofs.Branches
import TagLint.Proofs.PassPlans

/-! What is asked about a node depends on that node, on what hangs below it and on the rules alone. Its agenda says so
without the passes that do it, and passes over a document follow the agendas of its nodes. A node may come up more than
once. -/

namespace TagLint.Proofs.Agendas
open PassPlans Branches

/-- An attribute is shown under its key, to the subscribers that want it. -/
def deliveries (options : Datum) (subscribers : List Rule) (key : String) (attr : Attribute) : List Invocation :=
  (subscribers.filter (·.triggersOn key)).map fun rule => ⟨rule, .attr { attr with name := key }, options⟩

def shows (options : Datum) (subscribers : List Rule) (node : Node) : List Invocation :=
  node.attributes.entries.flatMap fun (key, attr) => deliveries options subscribers key attr

def named (node : Node) : Node :=
  { node with attributes := node.attributes.map fun key attr => { attr with name := key } }

/-- What asking a rule about a node invokes: the rule itself, or those that a fan-out speaks for. -/
def calls (options : Datum) (below : List (Tree Node)) (rule : Rule) (node : Node) : List Invocation :=
  match rule with
  | .check .. => [⟨rule, .node node below, options⟩]
  | .fanOut subscribers => shows options subscribers node

def left (rule : Rule) (node : Node) : Node :=
  match rule with
  | .check .. => node
  | .fanOut _ => named node

def callsInTurn (options : Datum) (below : List (Tree Node)) : List Rule → Node → List Invocation
  | [], _ => []
  | rule :: rules, node => calls options below rule node ++ callsInTurn options below rules (left rule node)

def leftInTurn (rules : List Rule) (node : Node) : Node :=
  rules.foldl (fun node rule => left rule node) node

def opened (node : Node) : Node :=
  if node.isElement then node.annotated else node

theorem opened_type (node : Node) : (opened node).type = node.type := by
  unfold opened Node.annotated
  split
  · split <;> rfl
  · rfl

theorem opened_isElement (node : Node) : (opened node).isElement = node.isElement :=
  congrArg NodeType.isElement (opened_type node)

theorem opened_resolved {node : Node} (element : node.isElement = true) :
    (opened node).attributesResolved = true := by
  rw [opened, element, if_pos rfl, Node.annotated]
  split
  next resolved => exact resolved
  next => rfl

/-- The node as the rules for nodes find it. -/
def ready (linter : Linter) (node : Node) : Node :=
  if node.isElement && linter.rules.any (·.isAttributeRule) then named (opened node) else opened node

def firing (linter : Linter) (type : NodeType) : List Rule :=
  linter.rules.filter fun rule => !rule.isAttributeRule && rule.firesOn type

theorem mem_firing {linter : Linter} {type : NodeType} {rule : Rule} :
    rule ∈ firing linter type ↔ rule ∈ linter.rules ∧ rule.isAttributeRule = false ∧ rule.firesOn type = true := by
  rw [firing, List.mem_filter, Bool.and_eq_true, Bool.not_eq_true']

/-- The invocations about one node: first those about its attributes, then those about the node itself. -/
def agenda (linter : Linter) (options : Datum) (below : List (Tree Node)) (node : Node) : List Invocation :=
  (if node.isElement then shows options (linter.rules.filter (·.isAttributeRule)) (opened node) else []) ++
    callsInTurn options below (firing linter node.type) (ready linter node)

def leaves (linter : Linter) (node : Node) : Node :=
  leftInTurn (firing linter node.type) (ready linter node)

section Document

variable {n : Nat}

theorem set_here (nodes : Vector Node n) (i : Fin n) (node : Node) : (nodes.set i node i.isLt).get i = node :=
  Vector.getElem_set_self _

theorem set_elsewhere (nodes : Vector Node n) {i j : Fin n} (other : i ≠ j) (node : Node) :
    (nodes.set i node i.isLt).get j = nodes.get j :=
  Vector.getElem_set_ne _ _ fun same => other (Fin.ext same)

private theorem below_elsewhere (nodes : Vector Node n) {i : Fin n} {branch : Tree (Fin n)}
    (absent : i ∉ branch.preorder) (node : Node) :
    Linter.below (nodes.set i node i.isLt) branch = Linter.below nodes branch := by
  apply mapAll_congr
  intro j member
  have other : i ≠ j := fun same => absent (children_subset_preorder branch (same ▸ member))
  exact set_elsewhere nodes other node

/-- What there is to say about branches in which a node does not occur stays the same when that node changes. -/
private theorem flatMap_elsewhere {α : Type} (about : List (Tree Node) → Node → List α) (nodes : Vector Node n)
    {branch : Tree (Fin n)} {branches : List (Tree (Fin n))} (apart : ∀ later ∈ branches, Apart branch later)
    (node : Node) :
    let changed := nodes.set branch.label node branch.label.isLt
    (branches.flatMap fun later => about (Linter.below changed later) (changed.get later.label)) =
      branches.flatMap fun later => about (Linter.below nodes later) (nodes.get later.label) := by
  intro changed
  apply List.flatMap_congr
  intro later member
  have absent : branch.label ∉ later.preorder := apart later member
  have other : branch.label ≠ later.label := fun same => absent (same ▸ label_mem_preorder later)
  rw [below_elsewhere nodes absent, set_elsewhere nodes other]

/-- What visits collect, each of which leaves its own node changed, is there to collect from the start where no visit
comes upon a node that has been visited. -/
theorem flatMap_of_apart {α : Type} (about : List (Tree Node) → Node → List α) (leave : Node → Node)
    {collect : List (Tree (Fin n)) → Vector Node n → List α} (done : ∀ nodes, collect [] nodes = [])
    (next : ∀ branch branches nodes, collect (branch :: branches) nodes =
      about (Linter.below nodes branch) (nodes.get branch.label) ++
        collect branches (nodes.set branch.label (leave (nodes.get branch.label)) branch.label.isLt))
    {branches : List (Tree (Fin n))} (nodes : Vector Node n) (apart : branches.Pairwise Apart) :
    collect branches nodes = branches.flatMap fun branch =>
      about (Linter.below nodes branch) (nodes.get branch.label) := by
  induction branches generalizing nodes with
  | nil => exact done nodes
  | cons branch branches ih =>
    obtain ⟨fresh, apart⟩ := List.pairwise_cons.mp apart
    rw [next, ih _ apart, List.flatMap_cons]
    exact congrArg _ (flatMap_elsewhere about nodes fresh _)

/-- The nodes after a visit in which every rule answers. -/
def afterVisit (linter : Linter) (nodes : Vector Node n) (i : Fin n) : Vector Node n :=
  nodes.set i (leaves linter (nodes.get i)) i.isLt

/-- The invocations about the nodes of a document that are visited in some order. -/
def documentCalls (linter : Linter) (options : Datum) : List (Tree (Fin n)) → Vector Node n → List Invocation
  | [], _ => []
  | branch :: branches, nodes =>
    agenda linter options (Linter.below nodes branch) (nodes.get branch.label) ++
      documentCalls linter options branches (afterVisit linter nodes branch.label)

def documentAfter (linter : Linter) (branches : List (Tree (Fin n))) (nodes : Vector Node n) : Vector Node n :=
  branches.foldl (fun nodes branch => afterVisit linter nodes branch.label) nodes

/-- Where nothing comes up twice, everything is asked about as it is in the document from the start. -/
theorem documentCalls_of_nodup (linter : Linter) (options : Datum) {forest : List (Tree (Fin n))}
    (nodes : Vector Node n) (distinct : (Tree.preorderAll forest).Nodup) :
    documentCalls linter options (Tree.branchesAll forest) nodes =
      (Tree.branchesAll forest).flatMap fun branch =>
        agenda linter options (Linter.below nodes branch) (nodes.get branch.label) :=
  flatMap_of_apart (agenda linter options) (leaves linter) (fun _ => rfl) (fun _ _ _ => rfl) nodes
    (apart_branchesAll distinct)

theorem documentCalls_append (linter : Linter) (options : Datum) (before later : List (Tree (Fin n)))
    (nodes : Vector Node n) : documentCalls linter options (before ++ later) nodes =
      documentCalls linter options before nodes ++
        documentCalls linter options later (documentAfter linter before nodes) := by
  induction before generalizing nodes with
  | nil => rfl
  | cons branch before ih =>
    rw [List.cons_append, documentCalls, documentCalls, ih, List.append_assoc]
    rfl

/-- Whatever is invoked is on the agenda of a node, as the visits before leave it. -/
theorem mem_documentCalls {linter : Linter} {options : Datum} {branches : List (Tree (Fin n))} {nodes : Vector Node n}
    {call : Invocation} (member : call ∈ documentCalls linter options branches nodes) :
    ∃ before branch later, branches = before ++ branch :: later ∧
      call ∈ agenda linter options (Linter.below (documentAfter linter before nodes) branch)
        ((documentAfter linter before nodes).get branch.label) := by
  induction branches generalizing nodes with
  | nil => contradiction
  | cons branch branches ih =>
    rw [documentCalls, List.mem_append] at member
    rcases member with here | further
    · exact ⟨[], branch, branches, rfl, here⟩
    · obtain ⟨before, other, later, rfl, there⟩ := ih further
      exact ⟨branch :: before, other, later, rfl, there⟩

end Document

theorem follows_onAttribute (options : Datum) (rule : Rule) (attr : Attribute) :
    Follows (unblamed [⟨rule, .attr attr, options⟩]) attr (rule.onAttribute options attr) := by
  cases rule with
  | check profile run => exact .single ⟨.check profile run, .attr attr, options⟩ attr
  | fanOut subscribers => exact .single ⟨.fanOut subscribers, .attr attr, options⟩ attr

theorem follows_applyToAttribute (options : Datum) (rules : List Rule) (attr : Attribute) :
    Follows (unblamed (rules.map fun rule => ⟨rule, .attr attr, options⟩)) attr
      (Rule.applyToAttribute options rules attr) := by
  induction rules with
  | nil => exact .rest attr
  | cons rule rules ih => exact (follows_onAttribute options rule attr).andThen ih

theorem follows_deliver (fanOut node : String) (subscribers : List Rule) (options : Datum) (key : String)
    (attr : Attribute) :
    Follows (unblamed (deliveries options subscribers key attr)) { attr with name := key }
      (Rule.deliver fanOut node subscribers options key attr) := by
  unfold Rule.deliver deliveries
  dsimp only
  split
  next nobody =>
    rw [nobody]
    exact .rest _
  next => exact (Follows.notices _ _).andThen (follows_applyToAttribute options _ _)

theorem follows_dispatch (fanOut : String) (subscribers : List Rule) (options : Datum) (node : Node) :
    Follows (unblamed (shows options subscribers node)) (named node)
      (Rule.dispatch fanOut subscribers options node) := by
  have follows := (Follows.sweep (follows_deliver fanOut node.name subscribers options) node.attributes).mapState
    fun attrs => { node with attributes := attrs }
  have plan : unblamed (shows options subscribers node) =
      node.attributes.entries.flatMap fun (key, attr) => unblamed (deliveries options subscribers key attr) :=
    List.map_flatMap
  rw [plan]
  exact follows

theorem follows_onNode (options : Datum) (below : List (Tree Node)) (rule : Rule) (node : Node) :
    Follows (unblamed (calls options below rule node)) (left rule node) (rule.onNode options below node) := by
  cases rule with
  | check profile run => exact .single ⟨.check profile run, .node node below, options⟩ node
  | fanOut subscribers => exact follows_dispatch _ subscribers options node

/-- The plan of a visit. For every rule that is asked in it, that rule is to blame for what is invoked. -/
def visitPlan (rules : List Rule) (request : Request) (below : List (Tree Node)) (node : Node) :
    List (Planned DocumentFailure) :=
  PassPlans.inTurn
    (fun rule node => blamed (Linter.documentFailure request rule) (unblamed (calls request.options below rule node)))
    left (rules.filter (·.firesOn node.type)) (opened node)

theorem follows_visit (rules : List Rule) (request : Request) (below : List (Tree Node)) (node : Node) :
    Follows (visitPlan rules request below node) (leftInTurn (rules.filter (·.firesOn node.type)) (opened node))
      (Linter.visit rules request below node) := by
  have asking := Follows.inTurn (fun rule node => (follows_onNode request.options below rule node).onFailure
    (Linter.documentFailure request rule) fun cause => .failed rule.name node.describe request.file? cause.text)
    (rules.filter (·.firesOn node.type)) (opened node)
  unfold Linter.visit visitPlan leftInTurn
  unfold opened at asking ⊢
  cases element : node.isElement with
  | true =>
    rw [element] at asking
    exact (Follows.notices _ _).andThen asking
  | false =>
    rw [element] at asking
    exact (Follows.rest _).andThen asking

/-- Every rule is to blame for what is invoked on its behalf. -/
theorem mem_visitPlan {rules : List Rule} {request : Request} {below : List (Tree Node)} {node : Node}
    {planned : Planned DocumentFailure} (member : planned ∈ visitPlan rules request below node) :
    ∃ rule ∈ rules, rule.firesOn node.type = true ∧
      (∃ between, planned.call ∈ calls request.options below rule between) ∧
      ∀ cause, planned.blame cause = Linter.documentFailure request rule cause := by
  obtain ⟨rule, among, between, here⟩ := mem_inTurn member
  obtain ⟨registered, fires⟩ := List.mem_filter.mp among
  simp only [blamed, unblamed, List.map_map, List.mem_map] at here
  obtain ⟨call, invoked, rfl⟩ := here
  exact ⟨rule, registered, fires, ⟨between, invoked⟩, fun _ => rfl⟩

private theorem calls_inTurn (request : Request) (below : List (Tree Node)) (rules : List Rule) (node : Node) :
    (PassPlans.inTurn
      (fun rule node => blamed (Linter.documentFailure request rule) (unblamed (calls request.options below rule node)))
      left rules node).map (·.call) = callsInTurn request.options below rules node := by
  induction rules generalizing node with
  | nil => rfl
  | cons rule rules ih => rw [PassPlans.inTurn, List.map_append, ih, call_blamed, call_unblamed, callsInTurn]

private theorem runRules_firing (linter : Linter) (type : NodeType) :
    linter.runRules.filter (·.firesOn type) =
      if type.isElement && linter.rules.any (·.isAttributeRule) then
        .fanOut (linter.rules.filter (·.isAttributeRule)) :: firing linter type
      else firing linter type := by
  have fires : (Rule.fanOut (linter.rules.filter (·.isAttributeRule))).firesOn type = type.isElement := rfl
  have others : linter.nodeRules.filter (·.firesOn type) = firing linter type := by
    rw [Linter.nodeRules, List.filter_filter, firing]
    congr 1
    funext rule
    exact Bool.and_comm _ _
  unfold Linter.runRules Linter.subscribers
  cases listening : linter.rules.filter (·.isAttributeRule) with
  | nil =>
    have nobody : linter.rules.any (·.isAttributeRule) = false := by
      rw [List.any_eq_false]
      exact List.filter_eq_nil_iff.mp listening
    rw [nobody, Bool.and_false, others]
    rfl
  | cons rule rules =>
    have somebody : linter.rules.any (·.isAttributeRule) = true := by
      have member : rule ∈ linter.rules.filter (·.isAttributeRule) := listening ▸ List.mem_cons_self
      rw [List.any_eq_true]
      exact ⟨rule, List.mem_filter.mp member⟩
    rw [listening] at fires
    rw [somebody, Bool.and_true, List.filter_cons, fires, others]

theorem shows_of_nobody (linter : Linter) (options : Datum) (node : Node)
    (nobody : linter.rules.any (·.isAttributeRule) = false) :
    shows options (linter.rules.filter (·.isAttributeRule)) node = [] := by
  rw [List.filter_eq_nil_iff.mpr (List.any_eq_false.mp nobody)]
  simp [shows, deliveries]

theorem calls_visitPlan (linter : Linter) (request : Request) (below : List (Tree Node)) (node : Node) :
    (visitPlan linter.runRules request below node).map (·.call) = agenda linter request.options below node := by
  rw [visitPlan, calls_inTurn, runRules_firing, agenda, ready]
  change callsInTurn request.options below (if node.isElement && _ then _ else _) _ = _
  cases element : node.isElement with
  | false => rfl
  | true =>
    cases somebody : linter.rules.any (·.isAttributeRule) with
    | true => rfl
    | false =>
      rw [shows_of_nobody linter _ _ somebody]
      rfl

private theorem leftInTurn_runRules (linter : Linter) (node : Node) :
    leftInTurn (linter.runRules.filter (·.firesOn node.type)) (opened node) = leaves linter node := by
  rw [runRules_firing, leaves, ready]
  change leftInTurn (if node.isElement && _ then _ else _) _ = _
  cases node.isElement && linter.rules.any (·.isAttributeRule) <;> rfl

theorem follows_document {n : Nat} (linter : Linter) (request : Request) (branches : List (Tree (Fin n)))
    (nodes : Vector Node n) :
    ∃ plan, Follows plan (documentAfter linter branches nodes)
        (Linter.visitAll linter.runRules request branches nodes) ∧
      plan.map (·.call) = documentCalls linter request.options branches nodes := by
  have follows := Follows.inTurn (fun (branch : Tree (Fin n)) (nodes : Vector Node n) =>
    (follows_visit linter.runRules request (Linter.below nodes branch) (nodes.get branch.label)).mapState
      (nodes.set branch.label · branch.label.isLt)) branches nodes
  simp only [leftInTurn_runRules] at follows
  refine ⟨_, follows, ?_⟩
  clear follows
  induction branches generalizing nodes with
  | nil => rfl
  | cons branch branches ih =>
    rw [PassPlans.inTurn, List.map_append, calls_visitPlan, documentCalls]
    exact congrArg _ (ih _)

end TagLint.Proofs.Agendas
