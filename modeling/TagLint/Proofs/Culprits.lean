import TagLint.Proofs.FirstFailure
import TagLint.Proofs.RunOrder

/-! Whom a failing run names. A rule for nodes is named itself. A rule for attributes is asked by the fan-out that speaks
for it, and the run names that fan-out. -/

namespace TagLint.Proofs.Culprits
open PassPlans PassFailures Agendas FirstFailure

private theorem mem_runRules {linter : Linter} {rule : Rule} (asked : rule ∈ linter.runRules) :
    rule ∈ linter.rules ∧ rule.isAttributeRule = false ∨ rule = .fanOut linter.subscribers := by
  have forNodes : ∀ other ∈ linter.nodeRules, other ∈ linter.rules ∧ other.isAttributeRule = false := by
    intro other member
    obtain ⟨registered, plain⟩ := List.mem_filter.mp member
    exact ⟨registered, by simpa using plain⟩
  unfold Linter.runRules at asked
  split at asked
  · exact .inl (forNodes rule asked)
  · rcases List.mem_cons.mp asked with speaker | other
    · exact .inr speaker
    · exact .inl (forNodes rule other)

theorem mem_shows {options : Datum} {subscribers : List Rule} {node : Node} {call : Invocation}
    (member : call ∈ shows options subscribers node) :
    call.rule ∈ subscribers ∧ ∃ attr, call.target = .attr attr ∧ call.rule.triggersOn attr.name = true := by
  simp only [shows, deliveries, List.mem_flatMap, List.mem_map, List.mem_filter] at member
  obtain ⟨⟨key, attr⟩, -, rule, ⟨among, wants⟩, rfl⟩ := member
  exact ⟨among, _, rfl, wants⟩

/-- The registered rule on whose behalf an invocation is made, with the rule that the run asked for it. -/
inductive Culprit (linter : Linter) (call : Invocation) : Rule → Rule → Prop
  | node {node : Node} {below : List (Tree Node)} : call.target = .node node below → call.rule ∈ linter.rules →
      call.rule.isAttributeRule = false → Culprit linter call call.rule call.rule
  | fanOut {subscribers : List Rule} {attr : Attribute} : call.target = .attr attr → call.rule ∈ subscribers →
      call.rule.triggersOn attr.name = true → .fanOut subscribers ∈ linter.rules →
      Culprit linter call (.fanOut subscribers) (.fanOut subscribers)
  | subscriber {attr : Attribute} : call.target = .attr attr → call.rule ∈ linter.subscribers →
      call.rule.triggersOn attr.name = true → Culprit linter call call.rule (.fanOut linter.subscribers)

private theorem culprit_of_mem_calls {linter : Linter} {options : Datum} {below : List (Tree Node)} {rule : Rule}
    {node : Node} {call : Invocation} (asked : rule ∈ linter.runRules) (member : call ∈ calls options below rule node) :
    ∃ culprit, Culprit linter call culprit rule := by
  cases rule with
  | check profile run =>
    rw [calls, List.mem_singleton] at member
    subst member
    rcases mem_runRules asked with ⟨registered, forNodes⟩ | speaker
    · exact ⟨_, .node rfl registered forNodes⟩
    · contradiction
  | fanOut subscribers =>
    obtain ⟨among, attr, seen, wants⟩ := mem_shows member
    rcases mem_runRules asked with ⟨registered, -⟩ | speaker
    · exact ⟨_, .fanOut seen among wants registered⟩
    · cases speaker
      exact ⟨_, .subscriber seen among wants⟩

theorem Culprit.registered {linter : Linter} {call : Invocation} {culprit asked : Rule}
    (known : Culprit linter call culprit asked) : culprit ∈ linter.rules := by
  cases known with
  | node _ registered _ => exact registered
  | fanOut _ _ _ registered => exact registered
  | subscriber _ among _ => exact (List.mem_filter.mp among).1

/-- Only a registered fan-out stands for rules that are not registered themselves. -/
theorem Culprit.rule_eq {linter : Linter} {call : Invocation} {culprit asked : Rule}
    (known : Culprit linter call culprit asked) : call.rule = culprit ∨ ∃ subscribers, culprit = .fanOut subscribers := by
  cases known with
  | node => exact .inl rfl
  | fanOut => exact .inr ⟨_, rfl⟩
  | subscriber => exact .inl rfl

/-- The name that a failing run gives for a registered rule: its own or, where it sees attributes, that of the fan-out. -/
def givenName (culprit : Rule) : String :=
  if culprit.isAttributeRule then "attr" else culprit.name

private theorem Culprit.asked_name {linter : Linter} {call : Invocation} {culprit asked : Rule}
    (known : Culprit linter call culprit asked) : asked.name = givenName culprit := by
  cases known with
  | node _ _ forNodes =>
    rw [givenName, forNodes]
    rfl
  | fanOut => rfl
  | subscriber _ among _ =>
    rw [givenName, (List.mem_filter.mp among).2]
    rfl

section Run

variable {n : Nat} (linter : Linter) (request : Request) (forest : List (Tree (Fin n))) (nodes : Vector Node n)

/-- A run that ends with the invocation `call`, the only one that is not answered, and fails for it. -/
structure FailsFor (call : Invocation) (culprit asked : Rule) (failure : DocumentFailure)
    (run : Pass DocumentFailure (Vector Node n)) : Prop where
  made : ∃ earlier, invocations run = earlier ++ [call] ∧ ∀ done ∈ earlier, done.answer.isOk = true
  raised : call.answer = .error failure.cause
  known : Culprit linter call culprit asked
  named : failure = Linter.documentFailure request asked failure.cause

private theorem visitAll_fails_for {branches : List (Tree (Fin n))} {failure : DocumentFailure}
    (failed : (Linter.visitAll linter.runRules request branches nodes).result = .error failure) :
    ∃ call culprit asked,
      FailsFor linter request call culprit asked failure (Linter.visitAll linter.runRules request branches nodes) := by
  obtain ⟨visited, last, -, -, ⟨issues, reached⟩, stopped, -, trace⟩ := visitAll_stops linter request nodes failed
  obtain ⟨due, -, answered⟩ := visitAll_finishes linter request nodes reached
  obtain ⟨before, call, -, -, made, answeredHere, raised, rule, asked, ⟨between, member⟩, named⟩ :=
    visit_ends linter request stopped
  obtain ⟨culprit, known⟩ := culprit_of_mem_calls asked member
  refine ⟨call, culprit, rule, ⟨_ ++ before, ?_, List.forall_mem_append.mpr ⟨answered, answeredHere⟩⟩, raised, known,
    named⟩
  rw [List.append_assoc, ← made, ← due, invocations, trace, List.filterMap_append]
  rfl

theorem lint_fails_for {failure : DocumentFailure}
    (failed : (linter.lint request forest nodes).result = .error failure) :
    ∃ call culprit asked, FailsFor linter request call culprit asked failure (linter.lint request forest nodes) := by
  have same := lint_of_error linter request forest nodes failed
  rw [same] at failed ⊢
  exact visitAll_fails_for linter request nodes failed

theorem lint_fails_of_raised {call : Invocation} (made : call ∈ invocations (linter.lint request forest nodes))
    {cause : Failure} (raised : call.answer = .error cause) :
    ∃ failure, (linter.lint request forest nodes).result = .error failure := by
  cases ended : (linter.lint request forest nodes).result with
  | error failure => exact ⟨failure, rfl⟩
  | ok issues =>
    rw [RunOrder.invocations_lint] at made
    rw [NodeStates.result_lint] at ended
    cases visited : (Linter.visitAll linter.runRules request (Tree.branchesAll forest) nodes).result with
    | error failure =>
      rw [visited] at ended
      contradiction
    | ok found =>
      obtain ⟨due, -, answered⟩ := visitAll_finishes linter request nodes visited
      have here := answered call (due ▸ made)
      rw [raised] at here
      contradiction

end Run

/-- Once an invocation fails, the run ends with it and fails for it. The registered rule on whose behalf it was made is
named where that is a rule for nodes; of a rule for attributes only the fan-out is named. -/
theorem failure_names_rule_or_fan_out {n : Nat} (linter : Linter) (request : Request) (forest : List (Tree (Fin n)))
    (nodes : Vector Node n) {call : Invocation} (made : call ∈ invocations (linter.lint request forest nodes))
    {cause : Failure} (raised : call.answer = .error cause) :
    ∃ culprit ∈ linter.rules, ∃ asked error, Culprit linter call culprit asked ∧
      (linter.lint request forest nodes).result = .error ⟨error, cause⟩ ∧
      (invocations (linter.lint request forest nodes)).getLast? = some call ∧
      error = {
        message := "Rule '" ++ givenName culprit ++ "' failed: " ++ cause.text
        file? := request.file?
        rule? := some (givenName culprit) } := by
  obtain ⟨failure, failed⟩ := lint_fails_of_raised linter request forest nodes made raised
  obtain ⟨last, culprit, asked, ⟨earlier, sequence, answered⟩, stopped, known, named⟩ :=
    lint_fails_for linter request forest nodes failed
  have same : call = last := by
    rw [sequence, List.mem_append, List.mem_singleton] at made
    refine made.resolve_left fun before => ?_
    have here := answered call before
    rw [raised] at here
    contradiction
  subst same
  obtain rfl : cause = failure.cause := Except.error.inj (raised.symm.trans stopped)
  refine ⟨culprit, known.registered, asked, failure.error, known, failed, ?_, ?_⟩
  · rw [sequence, List.getLast?_concat]
  · rw [named, ← known.asked_name, Linter.documentFailure]

theorem article_failure_names_fan_out :
    let linter : Linter := ⟨[.imgReqAlt, brittle]⟩
    let request : Request := { file? := some "a.html" }
    let run := linter.lint request [.node 0 [.node 1 []], .node 2 []] article
    ∃ call ∈ invocations run, ∃ cause, call.answer = .error cause ∧
      ∃ culprit ∈ linter.rules, ∃ asked error, Culprit linter call culprit asked ∧
        run.result = .error ⟨error, cause⟩ ∧ (invocations run).getLast? = some call ∧
        error = {
          message := "Rule '" ++ givenName culprit ++ "' failed: " ++ cause.text
          file? := request.file?
          rule? := some (givenName culprit) } := by
  intro linter request run
  have failing : (invocations run).any (!·.answer.isOk) = true := by decide +kernel
  obtain ⟨call, made, unanswered⟩ := List.any_eq_true.mp failing
  cases answer : call.answer with
  | ok issues =>
    rw [answer] at unanswered
    contradiction
  | error cause =>
    exact ⟨call, made, cause, answer, failure_names_rule_or_fan_out linter request _ article made answer⟩

/-- The only rule of a linter fails, and the failure bears the name of a rule that the linter does not have. -/
theorem lone_subscriber_is_not_named :
    let linter : Linter := ⟨[brittle]⟩
    let run := linter.lint {} [.node 1 []] article
    ∃ call ∈ invocations run, call.rule = brittle ∧ ∃ failure, call.answer = .error failure.cause ∧
      run.result = .error failure ∧ failure.error.rule? = some "attr" ∧ brittle.name ≠ "attr" := by
  intro linter run
  cases ended : run.result with
  | ok issues =>
    have failing : run.result.isOk = false := by decide +kernel
    rw [ended] at failing
    contradiction
  | error failure =>
    obtain ⟨call, culprit, asked, ⟨earlier, sequence, -⟩, raised, known, named⟩ :=
      lint_fails_for linter {} [.node 1 []] article ended
    have only : culprit = brittle := List.mem_singleton.mp known.registered
    have given : failure.error.rule? = some (givenName culprit) := by
      rw [named, ← known.asked_name, Linter.documentFailure]
    rw [only] at known given
    have rule : call.rule = brittle := by
      rcases known.rule_eq with same | ⟨subscribers, impossible⟩
      · exact same
      · contradiction
    refine ⟨call, ?_, rule, failure, raised, rfl, given, by decide⟩
    rw [sequence]
    exact List.mem_append_right earlier List.mem_cons_self

end TagLint.Proofs.Culprits
