import TagLint.Proofs.PassPlans

/-! Passes that fail. Steps taken in turn stop in the first one that fails, and what that step leaves behind is what the
pass leaves. A pass tells of its progress as it goes, and of its failure last. -/

namespace TagLint.Proofs.PassFailures
open PassPlans

variable {ε κ σ τ ι : Type}

theorem andThen_of_ok {first : Pass ε σ} {issues : List Issue} (next : σ → Pass ε σ)
    (succeeded : first.result = .ok issues) :
    first.andThen next = ⟨(next first.state).result.map (issues ++ ·), (next first.state).state,
      first.trace ++ (next first.state).trace⟩ := by
  simp only [Pass.andThen, succeeded]

theorem andThen_of_error {first : Pass ε σ} {failure : ε} (next : σ → Pass ε σ)
    (failed : first.result = .error failure) : first.andThen next = first := by
  simp only [Pass.andThen, failed]

theorem ok_of_andThen {first : Pass ε σ} {next : σ → Pass ε σ} {issues : List Issue}
    (succeeded : (first.andThen next).result = .ok issues) :
    (∃ here, first.result = .ok here) ∧ (∃ later, (next first.state).result = .ok later) ∧
      (first.andThen next).state = (next first.state).state := by
  cases ended : first.result with
  | error failure =>
    rw [andThen_of_error next ended, ended] at succeeded
    contradiction
  | ok here =>
    rw [andThen_of_ok next ended] at succeeded ⊢
    cases more : (next first.state).result with
    | error failure => simp [more, Except.map] at succeeded
    | ok later => exact ⟨⟨here, rfl⟩, ⟨later, rfl⟩, rfl⟩

theorem andThen_keeps {P : σ → Prop} {first : Pass ε σ} {next : σ → Pass ε σ} (here : P first.state)
    (later : P (next first.state).state) : P (first.andThen next).state := by
  cases ended : first.result with
  | error failure => rwa [andThen_of_error next ended]
  | ok issues => rwa [andThen_of_ok next ended]

/-- What every step keeps is kept by the steps in turn, up to the one that fails if one does. -/
theorem inTurn_keeps {P : σ → Prop} {step : ι → σ → Pass ε σ}
    (keeps : ∀ item state, P state → P (step item state).state) (items : List ι) {state : σ}
    (begun : P state) : P (Pass.inTurn step items state).state := by
  induction items generalizing state with
  | nil => exact begun
  | cons item items ih => exact andThen_keeps (keeps item state begun) (ih (keeps item state begun))

theorem onFailure_state (convert : ε → κ) (notice : ε → Notice) (pass : Pass ε σ) :
    (pass.onFailure convert notice).state = pass.state := by
  unfold Pass.onFailure
  split <;> rfl

theorem onFailure_result (convert : ε → κ) (notice : ε → Notice) (pass : Pass ε σ) :
    (pass.onFailure convert notice).result = pass.result.mapError convert := by
  unfold Pass.onFailure
  cases pass.result <;> rfl

/-- What a pass leaves behind where it fails in the step for `item`, with the steps for `before` done. -/
structure StopsAt (step : ι → σ → Pass ε σ) (begun : σ) (before : List ι) (item : ι) (failure : ε) (pass : Pass ε σ) :
    Prop where
  reached : ∃ issues, (Pass.inTurn step before begun).result = .ok issues
  failed : (step item (Pass.inTurn step before begun).state).result = .error failure
  state : pass.state = (step item (Pass.inTurn step before begun).state).state
  trace : pass.trace =
    (Pass.inTurn step before begun).trace ++ (step item (Pass.inTurn step before begun).state).trace

theorem inTurn_stops {step : ι → σ → Pass ε σ} {items : List ι} {state : σ} {failure : ε}
    (failed : (Pass.inTurn step items state).result = .error failure) :
    ∃ before item later, items = before ++ item :: later ∧
      StopsAt step state before item failure (Pass.inTurn step items state) := by
  induction items generalizing state with
  | nil => contradiction
  | cons item items ih =>
    rw [Pass.inTurn] at failed ⊢
    cases ended : (step item state).result with
    | error other =>
      rw [andThen_of_error _ ended] at failed ⊢
      exact ⟨[], item, items, rfl, ⟨[], rfl⟩, failed, rfl, rfl⟩
    | ok issues =>
      rw [andThen_of_ok _ ended] at failed ⊢
      obtain ⟨before, last, later, rfl, ⟨more, reached⟩, stopped, left, trace⟩ := ih (error_of_map failed)
      have joined : Pass.inTurn step (item :: before) state =
          ⟨(Pass.inTurn step before (step item state).state).result.map (issues ++ ·),
            (Pass.inTurn step before (step item state).state).state,
            (step item state).trace ++ (Pass.inTurn step before (step item state).state).trace⟩ :=
        andThen_of_ok _ ended
      refine ⟨item :: before, last, later, rfl, ?_⟩
      constructor
      case reached =>
        rw [joined, reached]
        exact ⟨_, rfl⟩
      case failed => rwa [joined]
      case state => rwa [joined]
      case trace => rw [joined, trace, List.append_assoc]

section Sweep

variable {step : String → Attribute → Pass ε Attribute} {entry : String × Attribute}

private theorem sweepEntries_of_ok (entries : List (String × Attribute)) {issues : List Issue}
    (succeeded : (step entry.1 entry.2).result = .ok issues) :
    Pass.sweepEntries step (entry :: entries) =
      ⟨(Pass.sweepEntries step entries).result.map (issues ++ ·),
        (entry.1, (step entry.1 entry.2).state) :: (Pass.sweepEntries step entries).state,
        (step entry.1 entry.2).trace ++ (Pass.sweepEntries step entries).trace⟩ := by
  simp only [Pass.sweepEntries, succeeded]

private theorem sweepEntries_of_error (entries : List (String × Attribute)) {failure : ε}
    (failed : (step entry.1 entry.2).result = .error failure) :
    Pass.sweepEntries step (entry :: entries) =
      ⟨.error failure, (entry.1, (step entry.1 entry.2).state) :: entries, (step entry.1 entry.2).trace⟩ := by
  simp only [Pass.sweepEntries, failed]

/-- What a sweep leaves behind where it fails at an entry, with those before it done and those after it not begun. -/
structure SweepStops (step : String → Attribute → Pass ε Attribute) (before : List (String × Attribute))
    (entry : String × Attribute) (after : List (String × Attribute)) (failure : ε)
    (pass : Pass ε (List (String × Attribute))) : Prop where
  reached : ∃ issues, (Pass.sweepEntries step before).result = .ok issues
  failed : (step entry.1 entry.2).result = .error failure
  state : pass.state = (Pass.sweepEntries step before).state ++ (entry.1, (step entry.1 entry.2).state) :: after
  trace : pass.trace = (Pass.sweepEntries step before).trace ++ (step entry.1 entry.2).trace

theorem sweepEntries_stops {entries : List (String × Attribute)} {failure : ε}
    (failed : (Pass.sweepEntries step entries).result = .error failure) :
    ∃ before entry after, entries = before ++ entry :: after ∧
      SweepStops step before entry after failure (Pass.sweepEntries step entries) := by
  induction entries with
  | nil => contradiction
  | cons entry entries ih =>
    cases ended : (step entry.1 entry.2).result with
    | error other =>
      rw [sweepEntries_of_error entries ended] at failed ⊢
      obtain rfl := Except.error.inj failed
      exact ⟨[], entry, entries, rfl, ⟨[], rfl⟩, ended, rfl, rfl⟩
    | ok issues =>
      rw [sweepEntries_of_ok entries ended] at failed ⊢
      obtain ⟨before, last, after, rfl, ⟨more, reached⟩, stopped, state, trace⟩ := ih (error_of_map failed)
      refine ⟨entry :: before, last, after, rfl, ?_⟩
      constructor
      case reached =>
        rw [sweepEntries_of_ok before ended, reached]
        exact ⟨_, rfl⟩
      case failed => exact stopped
      case state => rw [sweepEntries_of_ok before ended, state, List.cons_append]
      case trace => rw [sweepEntries_of_ok before ended, trace, List.append_assoc]

end Sweep

def report? : Event → Option Notice
  | .invoked .. => none
  | .noticed notice => some notice

def reports (pass : Pass ε σ) : List Notice :=
  pass.trace.filterMap report?

/-- Notices of work that goes on: no failure, no end of a run, and nothing of rules that come or go. -/
def Progress : Notice → Prop
  | .dispatched .. | .unlocated .. => True
  | _ => False

theorem Progress.level {notice : Notice} (progress : Progress notice) : notice.level = .debug := by
  cases notice <;> first | rfl | contradiction

def Quiet (pass : Pass ε σ) : Prop :=
  ∀ notice ∈ reports pass, Progress notice

theorem Quiet.rest (state : σ) : Quiet (ε := ε) (.rest state) :=
  fun _ member => nomatch member

private theorem reports_notices (state : σ) (notices : List Notice) :
    reports (ε := ε) (.notices state notices) = notices := by
  simp [reports, Pass.notices, Function.comp_def, report?]

theorem Quiet.notices (state : σ) {notices : List Notice} (progress : ∀ notice ∈ notices, Progress notice) :
    Quiet (ε := ε) (.notices state notices) := by
  rw [Quiet, reports_notices]
  exact progress

theorem Quiet.mapState {pass : Pass ε σ} (quiet : Quiet pass) (f : σ → τ) : Quiet (pass.mapState f) :=
  quiet

theorem Quiet.andThen {pass : Pass ε σ} {next : σ → Pass ε σ} (first : Quiet pass) (second : Quiet (next pass.state)) :
    Quiet (pass.andThen next) := by
  cases ended : pass.result with
  | error failure => rwa [andThen_of_error next ended]
  | ok issues =>
    rw [andThen_of_ok next ended, Quiet, reports, List.filterMap_append]
    exact List.forall_mem_append.mpr ⟨first, second⟩

theorem Quiet.inTurn {step : ι → σ → Pass ε σ} (steps : ∀ item state, Quiet (step item state)) (items : List ι)
    (state : σ) : Quiet (Pass.inTurn step items state) := by
  induction items generalizing state with
  | nil => exact .rest state
  | cons item items ih => exact (steps item state).andThen (ih _)

theorem Quiet.sweep {step : String → Attribute → Pass ε Attribute} (steps : ∀ key attr, Quiet (step key attr))
    (attrs : Attributes) : Quiet (Pass.sweep step attrs) := by
  change ∀ notice ∈ (Pass.sweepEntries step attrs.entries).trace.filterMap report?, Progress notice
  induction attrs.entries with
  | nil => exact fun _ member => nomatch member
  | cons entry entries ih =>
    simp only [Pass.sweepEntries]
    split
    · exact steps _ _
    · rw [List.filterMap_append]
      exact List.forall_mem_append.mpr ⟨steps _ _, ih⟩

/-- A pass that only tells of its progress while it succeeds, and tells of its failure last. -/
structure Tells (ending : ε → Notice → Prop) (pass : Pass ε σ) : Prop where
  quiet : ∀ issues, pass.result = .ok issues → Quiet pass
  last : ∀ failure, pass.result = .error failure → ∃ progress notice, reports pass = progress ++ [notice] ∧
    (∀ earlier ∈ progress, Progress earlier) ∧ ending failure notice

variable {ending : ε → Notice → Prop}

theorem Tells.rest (state : σ) : Tells ending (.rest state) :=
  ⟨fun _ _ => .rest state, fun _ failed => nomatch failed⟩

theorem Tells.notices (state : σ) {notices : List Notice} (progress : ∀ notice ∈ notices, Progress notice) :
    Tells ending (.notices state notices) :=
  ⟨fun _ _ => .notices state progress, fun _ failed => nomatch failed⟩

theorem Tells.mapState {pass : Pass ε σ} (tells : Tells ending pass) (f : σ → τ) : Tells ending (pass.mapState f) :=
  ⟨tells.quiet, tells.last⟩

theorem Tells.weaken {other : ε → Notice → Prop} {pass : Pass ε σ} (tells : Tells ending pass)
    (implies : ∀ failure notice, ending failure notice → other failure notice) : Tells other pass := by
  refine ⟨tells.quiet, fun failure failed => ?_⟩
  obtain ⟨progress, notice, told, earlier, ended⟩ := tells.last failure failed
  exact ⟨progress, notice, told, earlier, implies _ _ ended⟩

theorem Tells.andThen {pass : Pass ε σ} {next : σ → Pass ε σ} (first : Tells ending pass)
    (second : Tells ending (next pass.state)) : Tells ending (pass.andThen next) := by
  cases ended : pass.result with
  | error failure => rwa [andThen_of_error next ended]
  | ok issues =>
    have before := first.quiet issues ended
    rw [andThen_of_ok next ended]
    constructor
    case quiet =>
      intro all succeeded
      cases later : (next pass.state).result with
      | error failure => simp [later, Except.map] at succeeded
      | ok more =>
        rw [Quiet, reports, List.filterMap_append]
        exact List.forall_mem_append.mpr ⟨before, second.quiet more later⟩
    case last =>
      intro failure failed
      obtain ⟨progress, notice, told, earlier, ended⟩ := second.last failure (error_of_map failed)
      refine ⟨reports pass ++ progress, notice, ?_, List.forall_mem_append.mpr ⟨before, earlier⟩, ended⟩
      rw [List.append_assoc, ← told, reports, List.filterMap_append]
      rfl

theorem Tells.inTurn {step : ι → σ → Pass ε σ} {P : σ → Prop}
    (steps : ∀ item state, P state → Tells ending (step item state))
    (keeps : ∀ item state, P state → P (step item state).state) (items : List ι) {state : σ}
    (begun : P state) : Tells ending (Pass.inTurn step items state) := by
  induction items generalizing state with
  | nil => exact .rest state
  | cons item items ih => exact (steps item state begun).andThen (ih (keeps item state begun))

theorem Quiet.onFailure {pass : Pass ε σ} (quiet : Quiet pass) (convert : ε → κ) (notice : ε → Notice) :
    Tells (fun converted told => ∃ failure, converted = convert failure ∧ told = notice failure)
      (pass.onFailure convert notice) := by
  unfold Pass.onFailure
  split
  next issues succeeded => exact ⟨fun _ _ => quiet, fun _ failed => nomatch failed⟩
  next failure failed =>
    refine ⟨fun _ succeeded => (nomatch succeeded), fun converted same => ?_⟩
    cases same
    refine ⟨reports pass, notice failure, ?_, quiet, failure, rfl, rfl⟩
    simp [reports, report?]

end TagLint.Proofs.PassFailures
