import TagLint.Rule.Dispatch

/-! Plans for passes. A plan says which invocations a pass makes as long as they are answered; the first that fails ends
the pass, and its failure is the pass's own. Plans are joined as the passes are. -/

namespace TagLint.Proofs.PassPlans

structure Invocation where
  rule : Rule
  target : Target
  options : Datum

def Invocation.answer (call : Invocation) : Except Failure (List Issue) :=
  match call.rule with
  | .check _ run => run call.options call.target
  | .fanOut _ => .error (call.target.lacks "attribs")

def Invocation.issues (call : Invocation) : List Issue :=
  match call.answer with
  | .ok issues => issues
  | .error _ => []

def invocation? : Event → Option Invocation
  | .invoked rule target options => some ⟨rule, target, options⟩
  | .noticed _ => none

variable {ε κ σ τ ι : Type}

def invocations (pass : Pass ε σ) : List Invocation :=
  pass.trace.filterMap invocation?

/-- An invocation that is to be made, and what its failure means for the pass that makes it. -/
structure Planned (ε : Type) where
  call : Invocation
  blame : Failure → ε

def Planned.answer (planned : Planned ε) : Except ε (List Issue) :=
  planned.call.answer.mapError planned.blame

def collected : List (Planned ε) → Except ε (List Issue)
  | [] => .ok []
  | planned :: plan =>
    match planned.answer with
    | .ok issues => (collected plan).map (issues ++ ·)
    | .error failure => .error failure

/-- The invocations of a plan up to the first that fails. -/
def reached : List (Planned ε) → List Invocation
  | [] => []
  | planned :: plan =>
    match planned.answer with
    | .ok _ => planned.call :: reached plan
    | .error _ => [planned.call]

theorem collected_append (first second : List (Planned ε)) :
    collected (first ++ second) =
      match collected first with
      | .ok issues => (collected second).map (issues ++ ·)
      | .error failure => .error failure := by
  induction first with
  | nil => cases later : collected second <;> simp [collected, later, Except.map]
  | cons planned plan ih =>
    simp only [List.cons_append, collected]
    cases planned.answer with
    | error failure => rfl
    | ok issues =>
      simp only [ih]
      cases collected plan with
      | error failure => rfl
      | ok more => cases later : collected second <;> simp [Except.map]

theorem reached_append (first second : List (Planned ε)) :
    reached (first ++ second) =
      match collected first with
      | .ok _ => reached first ++ reached second
      | .error _ => reached first := by
  induction first with
  | nil => rfl
  | cons planned plan ih =>
    simp only [List.cons_append, reached, collected]
    cases planned.answer with
    | error failure => rfl
    | ok issues =>
      simp only [ih]
      cases collected plan <;> rfl

/-- A pass that makes the invocations of a plan, and leaves `after` behind if none of them fails. -/
structure Follows (plan : List (Planned ε)) (after : σ) (pass : Pass ε σ) : Prop where
  calls : invocations pass = reached plan
  result : pass.result = collected plan
  state : ∀ issues, pass.result = .ok issues → pass.state = after

theorem Follows.rest (state : σ) : Follows (ε := ε) [] state (.rest state) :=
  ⟨rfl, rfl, fun _ _ => rfl⟩

/-- The plan of a pass that fails as the rule fails. -/
def unblamed (calls : List Invocation) : List (Planned Failure) :=
  calls.map fun call => ⟨call, id⟩

theorem call_unblamed (calls : List Invocation) : (unblamed calls).map (·.call) = calls := by
  simp [unblamed, Function.comp_def]

theorem Follows.single (call : Invocation) (state : σ) :
    Follows (unblamed [call]) state ⟨call.answer, state, [.invoked call.rule call.target call.options]⟩ := by
  constructor
  case calls =>
    simp only [unblamed, List.map_cons, reached]
    split <;> rfl
  case result =>
    simp only [unblamed, List.map_cons, List.map_nil, collected, Planned.answer]
    cases call.answer with
    | error failure => rfl
    | ok issues => exact congrArg Except.ok (List.append_nil issues).symm
  case state => exact fun _ _ => rfl

private theorem filterMap_noticed (notices : List Notice) : (notices.map Event.noticed).filterMap invocation? = [] := by
  rw [List.filterMap_map]
  exact List.filterMap_eq_nil_iff.mpr fun _ _ => rfl

theorem Follows.notices (state : σ) (notices : List Notice) : Follows (ε := ε) [] state (.notices state notices) :=
  ⟨filterMap_noticed notices, rfl, fun _ _ => rfl⟩

theorem Follows.andThen {plan more : List (Planned ε)} {middle after : σ} {pass : Pass ε σ} {next : σ → Pass ε σ}
    (first : Follows plan middle pass) (second : Follows more after (next middle)) :
    Follows (plan ++ more) after (pass.andThen next) := by
  cases ended : pass.result with
  | error failure =>
    have stopped : pass.andThen next = pass := by simp [Pass.andThen, ended]
    have failed : collected plan = .error failure := first.result.symm.trans ended
    rw [stopped]
    constructor
    case calls => rw [reached_append, failed, first.calls]
    case result => rw [collected_append, failed, ended]
    case state =>
      intro issues succeeded
      rw [ended] at succeeded
      contradiction
  | ok issues =>
    have succeeded : collected plan = .ok issues := first.result.symm.trans ended
    have reachedMiddle := first.state issues ended
    have joined : pass.andThen next =
        ⟨(next middle).result.map (issues ++ ·), (next middle).state, pass.trace ++ (next middle).trace⟩ := by
      simp only [Pass.andThen, ended, reachedMiddle]
    rw [joined]
    constructor
    case calls =>
      rw [reached_append, succeeded, ← first.calls, ← second.calls]
      exact List.filterMap_append
    case result =>
      rw [collected_append, succeeded, ← second.result]
    case state =>
      intro all final
      cases later : (next middle).result with
      | error failure => simp [later, Except.map] at final
      | ok more => exact second.state more later

theorem Follows.mapState {plan : List (Planned ε)} {after : σ} {pass : Pass ε σ} (follows : Follows plan after pass)
    (f : σ → τ) : Follows plan (f after) (pass.mapState f) :=
  ⟨follows.calls, follows.result, fun issues succeeded => congrArg f (follows.state issues succeeded)⟩

def blamed (convert : ε → κ) (plan : List (Planned ε)) : List (Planned κ) :=
  plan.map fun planned => ⟨planned.call, convert ∘ planned.blame⟩

theorem call_blamed (convert : ε → κ) (plan : List (Planned ε)) :
    (blamed convert plan).map (·.call) = plan.map (·.call) := by
  simp [blamed, Function.comp_def]

private theorem answer_blamed (convert : ε → κ) (planned : Planned ε) :
    (Planned.mk planned.call (convert ∘ planned.blame)).answer = planned.answer.mapError convert := by
  simp only [Planned.answer]
  cases planned.call.answer <;> rfl

theorem collected_blamed (convert : ε → κ) (plan : List (Planned ε)) :
    collected (blamed convert plan) = (collected plan).mapError convert := by
  induction plan with
  | nil => rfl
  | cons planned plan ih =>
    simp only [blamed, List.map_cons, collected, answer_blamed]
    cases planned.answer with
    | error failure => rfl
    | ok issues =>
      change (collected (blamed convert plan)).map (issues ++ ·) = _
      rw [ih]
      cases collected plan <;> rfl

theorem reached_blamed (convert : ε → κ) (plan : List (Planned ε)) : reached (blamed convert plan) = reached plan := by
  induction plan with
  | nil => rfl
  | cons planned plan ih =>
    simp only [blamed, List.map_cons, reached, answer_blamed]
    cases planned.answer with
    | error failure => rfl
    | ok issues => exact congrArg (planned.call :: ·) ih

theorem Follows.onFailure {plan : List (Planned ε)} {after : σ} {pass : Pass ε σ} (follows : Follows plan after pass)
    (convert : ε → κ) (notice : ε → Notice) :
    Follows (blamed convert plan) after (pass.onFailure convert notice) := by
  have same := collected_blamed convert plan
  rw [← follows.result] at same
  unfold Pass.onFailure
  cases ended : pass.result with
  | ok issues =>
    rw [ended] at same
    exact ⟨follows.calls.trans (reached_blamed convert plan).symm, same.symm, fun _ _ => follows.state issues ended⟩
  | error failure =>
    rw [ended] at same
    constructor
    case calls =>
      rw [reached_blamed, ← follows.calls]
      simp [invocations, invocation?]
    case result => exact same.symm
    case state =>
      intro issues succeeded
      contradiction

def inTurn (plans : ι → σ → List (Planned ε)) (afters : ι → σ → σ) : List ι → σ → List (Planned ε)
  | [], _ => []
  | item :: items, state => plans item state ++ inTurn plans afters items (afters item state)

theorem mem_inTurn {plans : ι → σ → List (Planned ε)} {afters : ι → σ → σ} {items : List ι} {state : σ}
    {planned : Planned ε} (member : planned ∈ inTurn plans afters items state) :
    ∃ item ∈ items, ∃ between, planned ∈ plans item between := by
  induction items generalizing state with
  | nil => contradiction
  | cons item items ih =>
    rcases List.mem_append.mp member with here | later
    · exact ⟨item, List.mem_cons_self, state, here⟩
    · obtain ⟨other, among, between, there⟩ := ih later
      exact ⟨other, List.mem_cons_of_mem _ among, between, there⟩

theorem Follows.inTurn {plans : ι → σ → List (Planned ε)} {afters : ι → σ → σ} {step : ι → σ → Pass ε σ}
    (steps : ∀ item state, Follows (plans item state) (afters item state) (step item state)) (items : List ι)
    (state : σ) : Follows (PassPlans.inTurn plans afters items state)
      (items.foldl (fun state item => afters item state) state) (Pass.inTurn step items state) := by
  induction items generalizing state with
  | nil => exact .rest state
  | cons item items ih => exact (steps item state).andThen (ih (afters item state))

theorem Follows.sweepEntries {plans : String → Attribute → List (Planned ε)} {afters : String → Attribute → Attribute}
    {step : String → Attribute → Pass ε Attribute}
    (steps : ∀ key attr, Follows (plans key attr) (afters key attr) (step key attr))
    (entries : List (String × Attribute)) :
    Follows (entries.flatMap fun (key, attr) => plans key attr) (entries.map fun (key, attr) => (key, afters key attr))
      (Pass.sweepEntries step entries) := by
  induction entries with
  | nil => exact .rest []
  | cons entry entries ih =>
    obtain ⟨key, attr⟩ := entry
    -- a sweep is one step joined to the rest, if the rest is kept in the state until it is reached
    have joined : Pass.sweepEntries step ((key, attr) :: entries) =
        ((step key attr).mapState fun attr => (key, attr) :: entries).andThen fun
          | [] => .rest []
          | here :: _ => (Pass.sweepEntries step entries).mapState (here :: ·) := by
      simp only [Pass.sweepEntries, Pass.andThen, Pass.mapState]
      cases ended : (step key attr).result <;> rfl
    rw [joined]
    exact ((steps key attr).mapState _).andThen (ih.mapState _)

theorem Follows.sweep {plans : String → Attribute → List (Planned ε)} {afters : String → Attribute → Attribute}
    {step : String → Attribute → Pass ε Attribute}
    (steps : ∀ key attr, Follows (plans key attr) (afters key attr) (step key attr)) (attrs : Attributes) :
    Follows (attrs.entries.flatMap fun (key, attr) => plans key attr) (attrs.map afters) (Pass.sweep step attrs) := by
  have entries := Follows.sweepEntries steps attrs.entries
  refine ⟨entries.calls, entries.result, fun issues succeeded => ?_⟩
  simp only [Pass.sweep, Attributes.map, Attributes.mk.injEq]
  exact entries.state issues succeeded

private theorem isOk_of_answer {planned : Planned ε} (answered : planned.call.answer.isOk) :
    planned.answer = .ok planned.call.issues := by
  simp only [Planned.answer, Invocation.issues]
  cases ended : planned.call.answer with
  | ok issues => rfl
  | error failure =>
    rw [ended] at answered
    contradiction

/-- Where what was reached of a plan has been answered, all of it was reached. -/
theorem reached_of_answered {plan : List (Planned ε)} (answered : ∀ call ∈ reached plan, call.answer.isOk) :
    reached plan = plan.map (·.call) ∧ collected plan = .ok ((plan.map (·.call)).flatMap (·.issues)) := by
  induction plan with
  | nil => exact ⟨rfl, rfl⟩
  | cons planned plan ih =>
    have first : planned.call ∈ reached (planned :: plan) := by
      rw [reached]
      split <;> exact List.mem_cons_self
    have here := isOk_of_answer (answered _ first)
    have rest : reached (planned :: plan) = planned.call :: reached plan := by rw [reached, here]
    obtain ⟨calls, issues⟩ := ih fun call member => answered call (rest ▸ List.mem_cons_of_mem _ member)
    constructor
    · rw [rest, calls, List.map_cons]
    · rw [collected, here, issues]
      rfl

theorem mem_plan_of_reached {plan : List (Planned ε)} {call : Invocation} (member : call ∈ reached plan) :
    call ∈ plan.map (·.call) := by
  induction plan with
  | nil => contradiction
  | cons planned plan ih =>
    rw [List.map_cons, List.mem_cons]
    rw [reached] at member
    split at member
    · exact (List.mem_cons.mp member).imp_right ih
    · exact .inl (List.mem_singleton.mp member)

theorem Follows.succeeds {plan : List (Planned ε)} {after : σ} {pass : Pass ε σ} (follows : Follows plan after pass)
    (answered : ∀ call ∈ invocations pass, call.answer.isOk) :
    invocations pass = plan.map (·.call) ∧ pass.result = .ok ((invocations pass).flatMap (·.issues)) ∧
      pass.state = after := by
  rw [follows.calls] at answered ⊢
  obtain ⟨calls, issues⟩ := reached_of_answered answered
  have result := follows.result.trans issues
  refine ⟨calls, ?_, follows.state _ result⟩
  rw [calls, result]

/-- All of a plan that has been collected has been reached and answered. -/
theorem reached_of_collected {plan : List (Planned ε)} {issues : List Issue} (succeeded : collected plan = .ok issues) :
    reached plan = plan.map (·.call) ∧ ∀ planned ∈ plan, planned.call.answer.isOk = true := by
  induction plan generalizing issues with
  | nil => exact ⟨rfl, fun _ member => nomatch member⟩
  | cons planned plan ih =>
    cases ended : planned.call.answer with
    | error cause =>
      rw [collected, Planned.answer, ended] at succeeded
      contradiction
    | ok here =>
      have answer : planned.answer = .ok here := by
        rw [Planned.answer, ended]
        rfl
      rw [collected, answer] at succeeded
      cases later : collected plan with
      | error failure => simp [later, Except.map] at succeeded
      | ok more =>
        obtain ⟨calls, answered⟩ := ih later
        rw [reached, answer, calls, List.forall_mem_cons, ended]
        exact ⟨rfl, rfl, answered⟩

theorem Follows.finishes {plan : List (Planned ε)} {after : σ} {pass : Pass ε σ} {issues : List Issue}
    (follows : Follows plan after pass) (succeeded : pass.result = .ok issues) :
    invocations pass = plan.map (·.call) ∧ pass.state = after ∧ ∀ planned ∈ plan, planned.call.answer.isOk = true := by
  obtain ⟨calls, answered⟩ := reached_of_collected (follows.result.symm.trans succeeded)
  exact ⟨follows.calls.trans calls, follows.state _ succeeded, answered⟩

theorem error_of_map {result : Except ε (List Issue)} {issues : List Issue} {failure : ε}
    (failed : result.map (issues ++ ·) = .error failure) : result = .error failure := by
  cases result with
  | ok more => contradiction
  | error other => exact failed

/-- The first failing invocation of a plan is the last that is reached. -/
theorem reached_of_failed {plan : List (Planned ε)} {failure : ε} (failed : collected plan = .error failure) :
    ∃ earlier later cause, ∃ planned ∈ plan, plan.map (·.call) = earlier ++ planned.call :: later ∧
      (∀ done ∈ earlier, done.answer.isOk = true) ∧ planned.call.answer = .error cause ∧
      failure = planned.blame cause ∧ reached plan = earlier ++ [planned.call] := by
  induction plan with
  | nil => contradiction
  | cons planned plan ih =>
    cases ended : planned.call.answer with
    | error cause =>
      have answer : planned.answer = .error (planned.blame cause) := by
        rw [Planned.answer, ended]
        rfl
      rw [collected, answer] at failed
      cases failed
      refine ⟨[], plan.map (·.call), cause, planned, List.mem_cons_self, rfl, by simp, ended, rfl, ?_⟩
      rw [reached, answer]
      rfl
    | ok issues =>
      have answer : planned.answer = .ok issues := by
        rw [Planned.answer, ended]
        rfl
      rw [collected, answer] at failed
      obtain ⟨earlier, later, cause, last, member, split, answered, raised, blamed, made⟩ := ih (error_of_map failed)
      refine ⟨planned.call :: earlier, later, cause, last, List.mem_cons_of_mem _ member, ?_, ?_, raised, blamed, ?_⟩
      · rw [List.map_cons, split, List.cons_append]
      · rw [List.forall_mem_cons, ended]
        exact ⟨rfl, answered⟩
      · rw [reached, answer, made]
        rfl

theorem Follows.fails {plan : List (Planned ε)} {after : σ} {pass : Pass ε σ} {failure : ε}
    (follows : Follows plan after pass) (failed : pass.result = .error failure) :
    ∃ earlier later cause, ∃ planned ∈ plan, plan.map (·.call) = earlier ++ planned.call :: later ∧
      (∀ done ∈ earlier, done.answer.isOk = true) ∧ planned.call.answer = .error cause ∧
      failure = planned.blame cause ∧ invocations pass = earlier ++ [planned.call] := by
  rw [follows.calls]
  exact reached_of_failed (follows.result.symm.trans failed)

/-- A pass that fails as the rule fails ends with the first invocation of its plan that fails. -/
theorem Follows.fails_unblamed {calls : List Invocation} {after : σ} {pass : Pass Failure σ} {failure : Failure}
    (follows : Follows (unblamed calls) after pass) (failed : pass.result = .error failure) :
    ∃ earlier call later, calls = earlier ++ call :: later ∧ (∀ done ∈ earlier, done.answer.isOk = true) ∧
      call.answer = .error failure ∧ invocations pass = earlier ++ [call] := by
  obtain ⟨earlier, later, cause, planned, member, split, answered, raised, same, made⟩ := follows.fails failed
  obtain ⟨call, -, rfl⟩ := List.mem_map.mp member
  obtain rfl : failure = cause := same
  rw [call_unblamed] at split
  exact ⟨earlier, call, later, split, answered, raised, made⟩

end TagLint.Proofs.PassPlans
