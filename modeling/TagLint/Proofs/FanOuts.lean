import TagLint.Proofs.NodeStates

/-! One fan-out, invocation by invocation. It names an attribute by its key and then asks the subscribers about it, so a
failure finds the attributes up to its own named and those after it untouched. -/

namespace TagLint.Proofs.FanOuts
open PassPlans PassFailures Agendas NodeStates

/-- A rule without a trigger wants every key, any other rule the keys of its trigger. -/
def Wants (rule : Rule) (key : String) : Prop :=
  ∀ keys, rule.profile.trigger? = some keys → key ∈ keys

private theorem triggersOn_iff {rule : Rule} {key : String} : rule.triggersOn key = true ↔ Wants rule key := by
  rw [Rule.triggersOn, Wants]
  cases rule.profile.trigger? <;> simp

instance (rule : Rule) (key : String) : Decidable (Wants rule key) :=
  decidable_of_iff _ triggersOn_iff

/-- An entry whose attribute has its key as its name. -/
def keyed (entry : String × Attribute) : String × Attribute :=
  (entry.1, { entry.2 with name := entry.1 })

/-- The invocations that are due about one entry. -/
def dueAbout (options : Datum) (subscribers : List Rule) (entry : String × Attribute) : List Invocation :=
  (subscribers.filter fun rule => Wants rule entry.1).map fun rule => ⟨rule, .attr (keyed entry).2, options⟩

def due (options : Datum) (subscribers : List Rule) (entries : List (String × Attribute)) : List Invocation :=
  entries.flatMap (dueAbout options subscribers)

section FanOut

variable (fanOut node : String) (subscribers : List Rule) (options : Datum)

theorem follows_entry (entry : String × Attribute) :
    Follows (unblamed (dueAbout options subscribers entry)) (keyed entry).2
      (Rule.deliver fanOut node subscribers options entry.1 entry.2) := by
  have same : dueAbout options subscribers entry = deliveries options subscribers entry.1 entry.2 := by
    rw [dueAbout, deliveries]
    congr 1
    apply List.filter_congr
    intro rule _
    rw [Bool.eq_iff_iff, decide_eq_true_iff, triggersOn_iff]
  rw [same]
  exact follows_deliver fanOut node subscribers options entry.1 entry.2

theorem follows_entries (entries : List (String × Attribute)) :
    Follows (unblamed (due options subscribers entries)) (entries.map keyed)
      (Pass.sweepEntries (Rule.deliver fanOut node subscribers options) entries) := by
  have follows := Follows.sweepEntries
    (fun key attr => follows_entry fanOut node subscribers options (key, attr)) entries
  rw [due, unblamed, List.map_flatMap]
  exact follows

end FanOut

/-- The same node, but for its attributes, which are those of the entries. -/
def Leaves (node : Node) (entries : List (String × Attribute)) (after : Node) : Prop :=
  after = { node with attributes := after.attributes } ∧ after.attributes.entries = entries

/-- How a fan-out ends: with all that is due answered, or with the first invocation that fails. -/
inductive FansOut (options : Datum) (subscribers : List Rule) (node : Node) (pass : Pass Failure Node) : Prop
  | completes
    (answered : ∀ call ∈ due options subscribers node.attributes.entries, call.answer.isOk = true)
    (calls : invocations pass = due options subscribers node.attributes.entries)
    (result : pass.result = .ok ((due options subscribers node.attributes.entries).flatMap (·.issues)))
    (state : Leaves node (node.attributes.entries.map keyed) pass.state)
  | stops (before after : List (String × Attribute)) (entry : String × Attribute) (earlier later : List Invocation)
    (call : Invocation) (failure : Failure)
    (entries : node.attributes.entries = before ++ entry :: after)
    (about : dueAbout options subscribers entry = earlier ++ call :: later)
    (answered : ∀ done ∈ due options subscribers before ++ earlier, done.answer.isOk = true)
    (raised : call.answer = .error failure)
    (calls : invocations pass = due options subscribers before ++ earlier ++ [call])
    (result : pass.result = .error failure)
    (state : Leaves node (before.map keyed ++ keyed entry :: after) pass.state)

/-- A fan-out asks each subscriber that wants a key about the attribute of that key, under the key, in the order of the
attributes and then of the subscribers, and stops at the first failure. -/
theorem dispatch_fans_out (fanOut : String) (subscribers : List Rule) (options : Datum) (node : Node) :
    FansOut options subscribers node (Rule.dispatch fanOut subscribers options node) := by
  let step := Rule.deliver fanOut node.name subscribers options
  have all := follows_entries fanOut node.name subscribers options node.attributes.entries
  cases ended : (Pass.sweepEntries step node.attributes.entries).result with
  | ok issues =>
    obtain ⟨calls, state, answered⟩ := all.finishes ended
    rw [call_unblamed] at calls
    have every : ∀ call ∈ due options subscribers node.attributes.entries, call.answer.isOk = true :=
      fun call member => answered ⟨call, id⟩ (List.mem_map_of_mem member)
    obtain ⟨-, result, -⟩ := all.succeeds (calls ▸ every)
    rw [calls] at result
    exact .completes every calls result ⟨rfl, state⟩
  | error failure =>
    obtain ⟨before, entry, after, entries, ⟨issues, reached⟩, failed, state, trace⟩ := sweepEntries_stops ended
    obtain ⟨made, named, answered⟩ :=
      (follows_entries fanOut node.name subscribers options before).finishes reached
    obtain ⟨earlier, call, later, about, asked, raised, last⟩ :=
      (follows_entry fanOut node.name subscribers options entry).fails_unblamed failed
    rw [call_unblamed] at made
    refine .stops before after entry earlier later call failure entries about ?_ raised ?_ ended ⟨rfl, ?_⟩
    · intro done member
      rcases List.mem_append.mp member with before | here
      · exact answered ⟨done, id⟩ (List.mem_map_of_mem before)
      · exact asked done here
    · change ((Pass.sweepEntries step node.attributes.entries).trace).filterMap invocation? = _
      rw [trace, List.filterMap_append, List.append_assoc]
      exact congrArg₂ (· ++ ·) made last
    · change (Pass.sweepEntries step node.attributes.entries).state = _
      rw [state, named, deliver_state]
      rfl

example :
    let profile : Profile := {
      kind := { name := "Strict" }
      name := "strict"
      description := "Wants no ids"
      on := [.attr]
      trigger? := some ["id"] }
    let attrs : Attributes := .ofList [("src", { name := "SRC" }), ("id", { name := "ID" }), ("alt", { name := "ALT" })]
    let pass := Rule.dispatch "attr" [.check profile fun _ target => .error (target.lacks "alt")] .null
      { attributes := attrs }
    pass.state.attributes.entries.map (fun entry => entry.2.name) = ["src", "id", "ALT"] := by
  decide +kernel

end TagLint.Proofs.FanOuts
