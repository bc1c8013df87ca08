import TagLint.Proofs.NodeStates

/-! A failing run. It ends with the first of its invocations that fails, tells of that failure once, and leaves the
nodes that it has not come to as they were. -/

namespace TagLint.Proofs.FirstFailure
open PassPlans PassFailures Agendas NodeStates Branches

private theorem quiet_deliver (fanOut node : String) (subscribers : List Rule) (options : Datum) (key : String)
    (attr : Attribute) : Quiet (Rule.deliver fanOut node subscribers options key attr) := by
  have ask : ∀ (rule : Rule) (attr : Attribute), Quiet (rule.onAttribute options attr) :=
    fun _ _ _ member => nomatch member
  unfold Rule.deliver
  dsimp only
  split
  · exact .rest _
  · apply Quiet.andThen
    · apply Quiet.notices
      intro notice member
      rw [List.mem_singleton.mp member]
      trivial
    · exact .inTurn ask _ _

private theorem quiet_onNode (options : Datum) (below : List (Tree Node)) (rule : Rule) (node : Node) :
    Quiet (rule.onNode options below node) := by
  cases rule with
  | check profile run => exact fun _ member => nomatch member
  | fanOut subscribers => exact (Quiet.sweep (quiet_deliver _ _ _ _) _).mapState _

private theorem annotated_progress (node : Node) : ∀ notice ∈ node.annotationNotices, Progress notice := by
  intro notice member
  unfold Node.annotationNotices at member
  split at member
  · contradiction
  · split at member
    · contradiction
    · rw [List.mem_singleton.mp member]
      trivial

/-- How a visit of a node tells of its failure. -/
def Blames (request : Request) (described : String) (failure : DocumentFailure) (notice : Notice) : Prop :=
  ∃ rule, failure = Linter.documentFailure request rule failure.cause ∧
    notice = .failed rule.name described request.file? failure.cause.text

private theorem tells_visit (rules : List Rule) (request : Request) (below : List (Tree Node)) (node : Node) :
    Tells (Blames request node.describe) (Linter.visit rules request below node) := by
  rw [visit_eq]
  apply Tells.andThen
  · split
    · exact .notices _ (annotated_progress node)
    · exact .rest _
  · apply Tells.inTurn (P := fun state : Node => state.describe = node.describe)
    case steps =>
      intro rule state described
      refine ((quiet_onNode request.options below rule state).onFailure _ _).weaken ?_
      rintro failure notice ⟨cause, rfl, rfl⟩
      exact ⟨rule, rfl, by rw [described]; rfl⟩
    case keeps =>
      intro rule state described
      exact (renamed_ask request below rule state).describe.trans described
    case begun =>
      split <;> exact opened_describe node

section Run

variable {n : Nat} (linter : Linter) (request : Request) (forest : List (Tree (Fin n))) (nodes : Vector Node n)

private theorem quiet_visitAll {branches : List (Tree (Fin n))} {issues : List Issue}
    (succeeded : (Linter.visitAll linter.runRules request branches nodes).result = .ok issues) :
    Quiet (Linter.visitAll linter.runRules request branches nodes) := by
  have tells : Tells (fun _ _ => True) (Linter.visitAll linter.runRules request branches nodes) := by
    apply Tells.inTurn (P := fun _ => True)
    case steps =>
      intro branch state _
      exact ((tells_visit linter.runRules request _ (state.get branch.label)).mapState _).weaken fun _ _ _ => trivial
    case keeps => exact fun _ _ _ => trivial
    case begun => trivial
  exact tells.quiet issues succeeded

theorem visitAll_finishes {branches : List (Tree (Fin n))} {issues : List Issue}
    (succeeded : (Linter.visitAll linter.runRules request branches nodes).result = .ok issues) :
    invocations (Linter.visitAll linter.runRules request branches nodes) =
        documentCalls linter request.options branches nodes ∧
      (Linter.visitAll linter.runRules request branches nodes).state = documentAfter linter branches nodes ∧
      ∀ call ∈ documentCalls linter request.options branches nodes, call.answer.isOk = true := by
  obtain ⟨plan, follows, planned⟩ := follows_document linter request branches nodes
  obtain ⟨made, state, answered⟩ := follows.finishes succeeded
  rw [← planned]
  refine ⟨made, state, ?_⟩
  intro call member
  obtain ⟨step, among, rfl⟩ := List.mem_map.mp member
  exact answered step among

/-- A run that `failure` ends in the visit of the branch `last`, after the visits of the branches `visited`. The
invocations `earlier` are answered, and `call` is not. -/
structure EndsAt (visited : List (Tree (Fin n))) (last : Tree (Fin n)) (earlier : List Invocation) (call : Invocation)
    (failure : DocumentFailure) (run : Pass DocumentFailure (Vector Node n)) : Prop where
  place : ∃ asked rest, earlier = documentCalls linter request.options visited nodes ++ asked ∧
    agenda linter request.options (Linter.below (documentAfter linter visited nodes) last)
      ((documentAfter linter visited nodes).get last.label) = asked ++ call :: rest
  made : invocations run = earlier ++ [call]
  answered : ∀ done ∈ earlier, done.answer.isOk = true
  raised : call.answer = .error failure.cause
  file : failure.error.file? = request.file?
  logged : ∃ rule, failure = Linter.documentFailure request rule failure.cause ∧
    (reports run).filter (·.level == .error) =
      [.failed rule.name (nodes.get last.label).describe request.file? failure.cause.text]
  uncompleted : ∀ notice ∈ reports run, ∀ file? nodes issues, notice ≠ .linted file? nodes issues
  rulesKept : ∀ notice ∈ reports run, (∀ attributeRule rule, notice ≠ .registered attributeRule rule) ∧
    ∀ kind, notice ≠ .unregistered kind
  annotated : ∀ j ∈ visited.map Tree.label ++ [last.label], (nodes.get j).isElement = true →
    (run.state.get j).attributesResolved = true ∧ Annotated (nodes.get j) (run.state.get j) ∧
      Renamed (nodes.get j).annotated (run.state.get j)
  untouched : ∀ j, j ∉ visited.map Tree.label ++ [last.label] → run.state.get j = nodes.get j

theorem visit_ends {below : List (Tree Node)} {node : Node} {failure : DocumentFailure}
    (failed : (Linter.visit linter.runRules request below node).result = .error failure) :
    ∃ asked call rest, agenda linter request.options below node = asked ++ call :: rest ∧
      invocations (Linter.visit linter.runRules request below node) = asked ++ [call] ∧
      (∀ done ∈ asked, done.answer.isOk = true) ∧ call.answer = .error failure.cause ∧
      ∃ rule ∈ linter.runRules, (∃ between, call ∈ calls request.options below rule between) ∧
        failure = Linter.documentFailure request rule failure.cause := by
  obtain ⟨earlier, later, cause, planned, member, split, answered, raised, blamed, made⟩ :=
    (follows_visit linter.runRules request below node).fails failed
  obtain ⟨rule, among, -, asks, blame⟩ := mem_visitPlan member
  rw [blame] at blamed
  subst blamed
  rw [calls_visitPlan] at split
  exact ⟨earlier, planned.call, later, split, made, answered, raised, rule, among, asks, rfl⟩

private theorem errors_of_progress {progress : List Notice} (quiet : ∀ notice ∈ progress, Progress notice)
    {notice : Notice} (error : notice.level = .error) :
    (progress ++ [notice]).filter (·.level == .error) = [notice] := by
  have noError : progress.filter (·.level == .error) = [] := by
    apply List.filter_eq_nil_iff.mpr
    intro earlier member
    rw [(quiet earlier member).level]
    decide
  rw [List.filter_append, noError, List.filter_singleton, error]
  rfl

private theorem annotated_of_visited {before after : Node} (visited : Visited before after)
    (element : before.isElement = true) :
    after.attributesResolved = true ∧ Annotated before after ∧ Renamed before.annotated after := by
  refine ⟨visited.resolved (visited.isElement ▸ element), visited.annotated element, ?_⟩
  rwa [Visited, opened, if_pos element] at visited

/-- The visit of the branch `last` where those of the branches `visited` have come before it. -/
def lastVisit (visited : List (Tree (Fin n))) (last : Tree (Fin n)) : Pass DocumentFailure Node :=
  let state := documentAfter linter visited nodes
  Linter.visit linter.runRules request (Linter.below state last) (state.get last.label)

theorem visitAll_stops {branches : List (Tree (Fin n))} {failure : DocumentFailure}
    (failed : (Linter.visitAll linter.runRules request branches nodes).result = .error failure) :
    ∃ visited last unvisited, branches = visited ++ last :: unvisited ∧
      (∃ issues, (Linter.visitAll linter.runRules request visited nodes).result = .ok issues) ∧
      (lastVisit linter request nodes visited last).result = .error failure ∧
        (Linter.visitAll linter.runRules request branches nodes).state = (documentAfter linter visited nodes).set
          last.label (lastVisit linter request nodes visited last).state last.label.isLt ∧
        (Linter.visitAll linter.runRules request branches nodes).trace =
          (Linter.visitAll linter.runRules request visited nodes).trace ++
            (lastVisit linter request nodes visited last).trace := by
  obtain ⟨visited, last, unvisited, rfl, ⟨issues, reached⟩, stopped, state, trace⟩ := inTurn_stops failed
  refine ⟨visited, last, unvisited, rfl, ⟨issues, reached⟩, ?_⟩
  rw [lastVisit, ← (visitAll_finishes linter request nodes reached).2.1]
  exact ⟨stopped, state, trace⟩

private theorem describe_documentAfter (branches : List (Tree (Fin n))) (i : Fin n) :
    ((documentAfter linter branches nodes).get i).describe = (nodes.get i).describe := by
  rcases documentAfter_touched linter branches nodes i with same | visited
  · rw [same]
  · exact visited.describe

/-- What a run tells that fails in its last visit: its progress, and the failure last. -/
theorem visitAll_tells {branches visited : List (Tree (Fin n))} {last : Tree (Fin n)} {failure : DocumentFailure}
    {issues : List Issue} (reached : (Linter.visitAll linter.runRules request visited nodes).result = .ok issues)
    (stopped : (lastVisit linter request nodes visited last).result = .error failure)
    (trace : (Linter.visitAll linter.runRules request branches nodes).trace =
      (Linter.visitAll linter.runRules request visited nodes).trace ++
        (lastVisit linter request nodes visited last).trace) :
    ∃ rule progress, failure = Linter.documentFailure request rule failure.cause ∧
      (∀ notice ∈ progress, Progress notice) ∧
      reports (Linter.visitAll linter.runRules request branches nodes) =
        progress ++ [.failed rule.name (nodes.get last.label).describe request.file? failure.cause.text] := by
  obtain ⟨progress, notice, told, quiet, rule, blamed, rfl⟩ :=
    (tells_visit linter.runRules request _ _).last failure stopped
  refine ⟨rule, reports (Linter.visitAll linter.runRules request visited nodes) ++ progress, blamed, ?_, ?_⟩
  · exact List.forall_mem_append.mpr ⟨quiet_visitAll linter request nodes reached, quiet⟩
  · rw [List.append_assoc, ← describe_documentAfter linter nodes visited, ← told, reports, trace,
      List.filterMap_append]
    rfl

theorem visitAll_ends {branches : List (Tree (Fin n))} {failure : DocumentFailure}
    (failed : (Linter.visitAll linter.runRules request branches nodes).result = .error failure) :
    ∃ visited last unvisited earlier call later, branches = visited ++ last :: unvisited ∧
      documentCalls linter request.options branches nodes = earlier ++ call :: later ∧
      EndsAt linter request nodes visited last earlier call failure
        (Linter.visitAll linter.runRules request branches nodes) := by
  obtain ⟨visited, last, unvisited, same, ⟨issues, reached⟩, stopped, state, trace⟩ :=
    visitAll_stops linter request nodes failed
  obtain ⟨made, after, answered⟩ := visitAll_finishes linter request nodes reached
  obtain ⟨asked, call, rest, due, madeHere, answeredHere, raised, _, -, -, named⟩ := visit_ends linter request stopped
  obtain ⟨rule, progress, blamed, quiet, told⟩ := visitAll_tells linter request nodes reached stopped trace
  have left : Visited ((documentAfter linter visited nodes).get last.label)
    (lastVisit linter request nodes visited last).state := renamed_visit ..
  rw [← after] at left
  have others : ∀ notice ∈ reports (Linter.visitAll linter.runRules request branches nodes),
      Progress notice ∨ notice.level = .error := by
    rw [told]
    intro notice member
    rcases List.mem_append.mp member with earlier | last
    · exact .inl (quiet notice earlier)
    · exact .inr (List.mem_singleton.mp last ▸ rfl)
  obtain ⟨later, sequence⟩ : ∃ later, documentCalls linter request.options branches nodes =
      (documentCalls linter request.options visited nodes ++ asked) ++ call :: later := by
    rw [same, documentCalls_append, documentCalls, due]
    simp only [List.append_assoc, List.cons_append]
    exact ⟨_, rfl⟩
  refine ⟨visited, last, unvisited, _, call, later, same, sequence, ?_⟩
  constructor
  case place => exact ⟨asked, rest, rfl, due⟩
  case made =>
    rw [List.append_assoc, ← made, ← madeHere, invocations, trace, List.filterMap_append]
    rfl
  case answered => exact List.forall_mem_append.mpr ⟨answered, answeredHere⟩
  case raised => exact raised
  case file => rw [named, Linter.documentFailure]
  case logged =>
    rw [told]
    exact ⟨rule, blamed, errors_of_progress quiet rfl⟩
  case uncompleted =>
    rintro notice member file? count issues rfl
    rcases others _ member with progress | error <;> contradiction
  case rulesKept =>
    intro notice member
    constructor
    · rintro attributeRule rule rfl
      rcases others _ member with progress | error <;> contradiction
    · rintro kind rfl
      rcases others _ member with progress | error <;> contradiction
  case annotated =>
    intro j member element
    rw [state, ← after]
    exact annotated_of_visited (visited_of_mem reached left member) element
  case untouched =>
    intro j absent
    rw [state, ← after]
    exact untouched_of_not_mem absent

theorem lint_of_error {failure : DocumentFailure}
    (failed : (linter.lint request forest nodes).result = .error failure) :
    linter.lint request forest nodes = Linter.visitAll linter.runRules request (Tree.branchesAll forest) nodes := by
  rw [← walkAll_branchedAll]
  unfold Linter.lint at failed ⊢
  dsimp only at failed ⊢
  split
  · rfl
  next issues succeeded =>
    rw [succeeded] at failed
    contradiction

end Run

/-- A run fails just where one of the invocations that are due fails. It ends with the first that does, and blames that
failure, whatever its kind. -/
theorem lint_stops_at_first_failure {n : Nat} (linter : Linter) (request : Request) (forest : List (Tree (Fin n)))
    (nodes : Vector Node n) :
    let branches := Tree.branchesAll forest
    let due := documentCalls linter request.options branches nodes
    let run := linter.lint request forest nodes
    branches.map Tree.label = Tree.preorderAll forest ∧
    ((Tree.preorderAll forest).Nodup → due = branches.flatMap fun branch =>
      agenda linter request.options (Linter.below nodes branch) (nodes.get branch.label)) ∧
    ((∃ failure, run.result = .error failure) ↔ ∃ call ∈ due, call.answer.isOk = false) ∧
    ∀ failure, run.result = .error failure →
      ∃ visited last unvisited earlier call later, branches = visited ++ last :: unvisited ∧
        due = earlier ++ call :: later ∧ EndsAt linter request nodes visited last earlier call failure run ∧
        ((Tree.preorderAll forest).Nodup → ∀ j ∈ unvisited.map Tree.label, run.state.get j = nodes.get j) := by
  intro branches due run
  have ends : ∀ failure, run.result = .error failure →
      ∃ visited last unvisited earlier call later, branches = visited ++ last :: unvisited ∧
        due = earlier ++ call :: later ∧ EndsAt linter request nodes visited last earlier call failure run := by
    intro failure failed
    have same : run = Linter.visitAll linter.runRules request branches nodes :=
      lint_of_error linter request forest nodes failed
    rw [same] at failed ⊢
    exact visitAll_ends linter request nodes failed
  have order : branches.map Tree.label = Tree.preorderAll forest := label_branchesAll forest
  refine ⟨order, documentCalls_of_nodup linter request.options nodes, ⟨?_, ?_⟩, ?_⟩
  · rintro ⟨failure, failed⟩
    obtain ⟨_, _, _, earlier, call, later, -, sequence, ended⟩ := ends failure failed
    refine ⟨call, sequence ▸ List.mem_append_right earlier List.mem_cons_self, ?_⟩
    rw [ended.raised]
    rfl
  · rintro ⟨call, member, failing⟩
    cases ended : run.result with
    | error failure => exact ⟨failure, rfl⟩
    | ok issues =>
      have result := result_lint linter request forest nodes
      cases visited : (Linter.visitAll linter.runRules request (Tree.branchesAll forest) nodes).result with
      | error failure =>
        rw [visited] at result
        exact absurd (ended.symm.trans result) nofun
      | ok issues =>
        have answered := (visitAll_finishes linter request nodes visited).2.2 call member
        rw [failing] at answered
        contradiction
  · intro failure failed
    obtain ⟨visited, last, unvisited, earlier, call, later, split, sequence, ended⟩ := ends failure failed
    refine ⟨visited, last, unvisited, earlier, call, later, split, sequence, ended, ?_⟩
    intro distinct j member
    apply ended.untouched
    rw [← order, split, List.map_append, List.map_cons, List.append_cons] at distinct
    exact fun earlier => (List.nodup_append.mp distinct).2.2 j earlier j member rfl

/-- Fails on the attribute `id`, with an error that is of a document already. -/
def brittle : Rule :=
  .check { kind := { name := "Brittle" }, name := "brittle", description := "Breaks on ids", on := [.attr] }
    fun _ target =>
      if target.name == "id" then .error (.lint { message := "boom", file? := some "b.html" }) else .ok []

def article : Vector Node 3 :=
  #v[{ name := "p", openTag := ⟨"p", 0⟩ },
     { name := "a", openTag := ⟨"a HREF=x ID=y title", 3⟩,
       attributes := .ofList [("href", { name := "HREF" }), ("id", { name := "ID" }), ("title", { name := "TITLE" })] },
     { name := "img", openTag := ⟨"img ID=z", 24⟩, attributes := .ofList [("id", { name := "ID" })] }]

theorem article_stops_at_first_id :
    let linter : Linter := ⟨[.imgReqAlt, brittle]⟩
    let request : Request := { file? := some "a.html" }
    let forest : List (Tree (Fin 3)) := [.node 0 [.node 1 []], .node 2 []]
    let run := linter.lint request forest article
    (∃ failure, run.result = .error failure ∧
      ∃ visited last unvisited earlier call later, Tree.branchesAll forest = visited ++ last :: unvisited ∧
        documentCalls linter request.options (Tree.branchesAll forest) article = earlier ++ call :: later ∧
        EndsAt linter request article visited last earlier call failure run ∧
        ((Tree.preorderAll forest).Nodup → ∀ j ∈ unvisited.map Tree.label, run.state.get j = article.get j)) ∧
      (invocations run).map (fun call => (call.rule.name, call.target.name)) =
        [("img-req-alt", "p"), ("brittle", "href"), ("brittle", "id")] := by
  intro linter request forest run
  obtain ⟨-, -, fails, ends⟩ := lint_stops_at_first_failure linter request forest article
  obtain ⟨failure, failed⟩ := fails.mpr (by decide +kernel)
  exact ⟨⟨failure, failed, ends failure failed⟩, by decide +kernel⟩

end TagLint.Proofs.FirstFailure
