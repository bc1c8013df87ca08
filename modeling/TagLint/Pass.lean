import TagLint.Rule

/-!
Passes over what is being linted. A pass ends with issues or a failure, leaves a state behind in either case, and
keeps a trace of what was done on the way. Passes are joined end to end; nothing follows a failure.
-/

namespace TagLint

inductive Event
  | invoked (rule : Rule) (target : Target) (options : Datum)
  | noticed (notice : Notice)

structure Pass (ε σ : Type) where
  result : Except ε (List Issue)
  state : σ
  trace : List Event := []

namespace Pass

variable {ε κ σ τ : Type}

def rest (state : σ) : Pass ε σ :=
  ⟨.ok [], state, []⟩

def notices (state : σ) (notices : List Notice) : Pass ε σ :=
  ⟨.ok [], state, notices.map .noticed⟩

/-- Goes on from the state that a pass left behind, unless it failed. -/
def andThen (first : Pass ε σ) (next : σ → Pass ε σ) : Pass ε σ :=
  match first.result with
  | .error _ => first
  | .ok issues =>
    let later := next first.state
    ⟨later.result.map (issues ++ ·), later.state, first.trace ++ later.trace⟩

def mapState (f : σ → τ) (pass : Pass ε σ) : Pass ε τ :=
  ⟨pass.result, f pass.state, pass.trace⟩

/-- Turns a failure into one of another kind and notes it. What ends the program is no failure and goes past this. -/
def onFailure (convert : ε → κ) (notice : ε → Notice) (pass : Pass ε σ) : Pass κ σ :=
  match pass.result with
  | .ok issues => ⟨.ok issues, pass.state, pass.trace⟩
  | .error failure => ⟨.error (convert failure), pass.state, pass.trace ++ [.noticed (notice failure)]⟩

/-- Takes a step for each item in turn, from the state that the step before it left. -/
def inTurn (step : α → σ → Pass ε σ) : List α → σ → Pass ε σ
  | [], state => rest state
  | item :: items, state => (step item state).andThen (inTurn step items)

/-- Takes a step on each entry of a list in turn; after a failure the entries that follow stay as they are. -/
def sweepEntries (step : String → Attribute → Pass ε Attribute) :
    List (String × Attribute) → Pass ε (List (String × Attribute))
  | [] => rest []
  | (key, attr) :: entries =>
    let here := step key attr
    match here.result with
    | .error failure => ⟨.error failure, (key, here.state) :: entries, here.trace⟩
    | .ok issues =>
      let later := sweepEntries step entries
      ⟨later.result.map (issues ++ ·), (key, here.state) :: later.state, here.trace ++ later.trace⟩

theorem sweepEntries_keys (step : String → Attribute → Pass ε Attribute) (entries : List (String × Attribute)) :
    (sweepEntries step entries).state.map (·.1) = entries.map (·.1) := by
  induction entries with
  | nil => rfl
  | cons entry entries ih =>
    simp only [sweepEntries]
    split <;> simp [ih]

def sweep (step : String → Attribute → Pass ε Attribute) (attrs : Attributes) : Pass ε Attributes :=
  let swept := sweepEntries step attrs.entries
  ⟨swept.result, ⟨swept.state, by rw [sweepEntries_keys]; exact attrs.keys_nodup⟩, swept.trace⟩

end Pass

end TagLint
