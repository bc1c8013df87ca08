import Mathlib.Data.List.Perm.Basic
import TagLint.Linter

/-! Histories of a linter. What it holds is told by what was registered and by the kinds that were taken away later on,
whatever the caller does with the lists that were read in between. -/

namespace TagLint.Proofs.Registrations

inductive Command
  | register (rule : Rule)
  | registerAll (rules : List Rule)
  | unregister (kind : String)
  | read
  /-- Empties one of the lists that were read. -/
  | clear (copy : Nat)

/-- The lists of rules of a program. A list is known by its place, and whoever knows the place may change the list. -/
structure Memory where
  lists : List (List Rule)
  /-- The place of the list that the linter holds. -/
  own : Nat
  /-- The places of the lists that were read. -/
  handed : List Nat
  inside : own < lists.length
  known : ∀ place ∈ handed, place < lists.length
  apart : own ∉ handed

namespace Memory

/-- A new linter. -/
def start : Memory where
  lists := [[]]
  own := 0
  handed := []
  inside := Nat.zero_lt_one
  known := by simp
  apart := List.not_mem_nil

def linter (memory : Memory) : Linter :=
  ⟨memory.lists.get ⟨memory.own, memory.inside⟩⟩

def copies (memory : Memory) : List (List Rule) :=
  memory.handed.map fun place => memory.lists[place]?.getD []

/-- Changes a list for all who know its place. -/
def write (memory : Memory) (place : Nat) (rules : List Rule) : Memory where
  lists := memory.lists.set place rules
  own := memory.own
  handed := memory.handed
  inside := by rw [List.length_set]; exact memory.inside
  known := by rw [List.length_set]; exact memory.known
  apart := memory.apart

/-- Gives the linter a new list for its own. -/
def replace (memory : Memory) (rules : List Rule) : Memory where
  lists := memory.lists ++ [rules]
  own := memory.lists.length
  handed := memory.handed
  inside := by simp
  known place held := by
    rw [List.length_append]
    exact Nat.lt_add_right _ (memory.known place held)
  apart held := Nat.lt_irrefl _ (memory.known _ held)

/-- Gives the caller a list of what the linter holds. -/
def hand (memory : Memory) : Memory where
  lists := memory.lists ++ [memory.linter.rules]
  own := memory.own
  handed := memory.handed ++ [memory.lists.length]
  inside := by
    rw [List.length_append]
    exact Nat.lt_add_right _ memory.inside
  known place held := by
    rw [List.length_append]
    rcases List.mem_append.mp held with before | new
    · exact Nat.lt_add_right _ (memory.known place before)
    · rw [List.mem_singleton.mp new]
      exact Nat.lt_add_one _
  apart held := by
    rcases List.mem_append.mp held with before | new
    · exact memory.apart before
    · exact Nat.ne_of_lt memory.inside (List.mem_singleton.mp new)

/-- New rules are added to the list at hand, while a removal makes a new one. -/
def step (memory : Memory) : Command → Memory
  | .register rule => memory.write memory.own (memory.linter.register rule).rules
  | .registerAll rules => memory.write memory.own (memory.linter.registerAll rules).rules
  | .unregister kind => memory.replace (memory.linter.unregister kind).rules
  | .read => memory.hand
  | .clear copy => match memory.handed[copy]? with
    | some place => memory.write place []
    | none => memory

variable {memory : Memory}

theorem linter_write_own (memory : Memory) (rules : List Rule) : (memory.write memory.own rules).linter = ⟨rules⟩ := by
  simp [linter, write]

theorem linter_write_handed {place : Nat} (held : place ∈ memory.handed) (rules : List Rule) :
    (memory.write place rules).linter = memory.linter := by
  have apart : place ≠ memory.own := fun same => memory.apart (same ▸ held)
  simp [linter, write, apart]

theorem linter_replace (memory : Memory) (rules : List Rule) : (memory.replace rules).linter = ⟨rules⟩ := by
  simp [linter, replace]

theorem linter_hand (memory : Memory) : memory.hand.linter = memory.linter := by
  simp [linter, hand, memory.inside]

theorem copies_hand (memory : Memory) : memory.hand.copies = memory.copies ++ [memory.linter.rules] := by
  have older : ∀ place ∈ memory.handed, memory.hand.lists[place]? = memory.lists[place]? :=
    fun place held => List.getElem?_append_left (memory.known place held)
  have newest : memory.hand.lists[memory.lists.length]? = some memory.linter.rules := List.getElem?_concat_length
  change (memory.handed ++ [memory.lists.length]).map _ = _
  rw [List.map_append, List.map_singleton, newest, copies]
  congr 1
  exact List.map_congr_left fun place held => by rw [older place held]

end Memory

def run (history : List Command) : Memory :=
  history.foldl Memory.step .start

def registered : Command → List Rule
  | .register rule => [rule]
  | .registerAll rules => rules
  | .unregister _ | .read | .clear _ => []

/-- Whether a command takes a rule away. -/
def withdraws (rule : Rule) : Command → Bool
  | .unregister kind => rule.kind.isA kind
  | .register _ | .registerAll _ | .read | .clear _ => false

def withdrawn (later : List Command) (rule : Rule) : Bool :=
  later.any (withdraws rule)

/-- A rule that was registered, with what was done afterwards. -/
structure Registration where
  rule : Rule
  later : List Command

def registrations : List Command → List Registration
  | [] => []
  | command :: later => (registered command).map (⟨·, later⟩) ++ registrations later

/-- The registered rules that no later command takes away. -/
def kept (history : List Command) : List Rule :=
  ((registrations history).filter fun registration => !withdrawn registration.later registration.rule).map (·.rule)

section Histories

variable {history : List Command}

theorem rule_registrations (history : List Command) :
    (registrations history).map (·.rule) = history.flatMap registered := by
  induction history with
  | nil => rfl
  | cons command later ih =>
    rw [registrations, List.map_append, List.map_map, ih, List.flatMap_cons]
    exact congrArg (· ++ _) (List.map_id _)

theorem kept_cons (command : Command) (later : List Command) :
    kept (command :: later) = (registered command).filter (!withdrawn later ·) ++ kept later := by
  simp only [kept, registrations, List.filter_append, List.map_append, List.filter_map, List.map_map]
  congr 1
  exact List.map_id _

private theorem rules_registerAll (linter : Linter) (rules : List Rule) :
    (linter.registerAll rules).rules = linter.rules ++ rules := by
  induction rules generalizing linter with
  | nil => exact (List.append_nil _).symm
  | cons rule rules ih =>
    change ((linter.register rule).registerAll rules).rules = _
    rw [ih, Linter.register, List.append_assoc, List.singleton_append]

theorem rules_step (memory : Memory) (command : Command) :
    (memory.step command).linter.rules =
      memory.linter.rules.filter (!withdraws · command) ++ registered command := by
  have all : memory.linter.rules.filter (fun _ => !false) = memory.linter.rules := List.filter_true _
  cases command with
  | register rule =>
    simp only [Memory.step, withdraws, registered, all, Memory.linter_write_own]
    rfl
  | registerAll rules =>
    simp only [Memory.step, withdraws, registered, all, Memory.linter_write_own]
    exact rules_registerAll memory.linter rules
  | unregister kind =>
    simp only [Memory.step, withdraws, registered, Memory.linter_replace, List.append_nil]
    rfl
  | read => simp only [Memory.step, withdraws, registered, all, Memory.linter_hand, List.append_nil]
  | clear copy =>
    simp only [Memory.step, withdraws, registered, all, List.append_nil]
    split
    next found => rw [Memory.linter_write_handed (List.mem_of_getElem? found)]
    next => rfl

/-- A run leaves the rules that were there and that none of its commands takes away, and adds those that it keeps. -/
theorem rules_foldl_step (memory : Memory) (commands : List Command) :
    (commands.foldl Memory.step memory).linter.rules =
      memory.linter.rules.filter (!withdrawn commands ·) ++ kept commands := by
  induction commands generalizing memory with
  | nil => simp [kept, registrations, withdrawn]
  | cons command later ih =>
    have both : (!withdrawn (command :: later) ·) = fun rule => !withdrawn later rule && !withdraws rule command := by
      funext rule
      rw [withdrawn, List.any_cons, Bool.not_or, Bool.and_comm, withdrawn]
    rw [List.foldl_cons, ih, rules_step, List.filter_append, List.filter_filter, kept_cons, both, List.append_assoc]

theorem rules_run (history : List Command) : (run history).linter.rules = kept history := by
  rw [run, rules_foldl_step]
  rfl

theorem run_concat (history : List Command) (command : Command) :
    run (history ++ [command]) = (run history).step command :=
  List.foldl_concat ..

/-- A removal is reported just when it makes the linter shorter. -/
theorem hasKind_iff (linter : Linter) (kind : String) :
    linter.hasKind kind = true ↔ (linter.unregister kind).size < linter.size := by
  rw [Linter.hasKind, Linter.size, Linter.size, Linter.unregister, List.length_filter_lt_length_iff_exists,
    List.any_eq_true]
  simp

end Histories

/-- How a linter divides its rules into those for attributes and those for nodes. -/
structure Divided (linter : Linter) : Prop where
  subscribers : linter.subscribers = linter.rules.filter fun rule => NodeType.attr ∈ rule.profile.on
  nodeRules : linter.nodeRules = linter.rules.filter fun rule => NodeType.attr ∉ rule.profile.on
  inOrder : linter.subscribers.Sublist linter.rules ∧ linter.nodeRules.Sublist linter.rules
  disjoint : linter.subscribers.Disjoint linter.nodeRules
  exhaust : (linter.subscribers ++ linter.nodeRules).Perm linter.rules
  forType : ∀ type, linter.rulesForType type = linter.nodeRules.filter fun rule => type ∈ rule.profile.on
  forAttributes : linter.rulesForType .attr = []

private theorem firesOn_eq (type : NodeType) :
    (·.firesOn type) = fun (rule : Rule) => decide (type ∈ rule.profile.on) := by
  funext rule
  rw [Rule.firesOn, List.contains_eq_mem]

private theorem divided (linter : Linter) : Divided linter := by
  have attributes : (·.isAttributeRule) = fun (rule : Rule) => decide (NodeType.attr ∈ rule.profile.on) := firesOn_eq .attr
  constructor
  case subscribers => rw [Linter.subscribers, attributes]
  case nodeRules =>
    apply List.filter_congr
    intro rule _
    rw [congrFun attributes rule, decide_not]
  case inOrder => exact ⟨List.filter_sublist, List.filter_sublist⟩
  case disjoint =>
    intro rule listening other
    have yes := (List.mem_filter.mp listening).2
    have no := (List.mem_filter.mp other).2
    simp [yes] at no
  case exhaust => exact List.filter_append_perm _ _
  case forType =>
    intro type
    rw [Linter.rulesForType, firesOn_eq]
  case forAttributes =>
    apply List.filter_eq_nil_iff.mpr
    intro rule member fires
    have plain := (List.mem_filter.mp member).2
    rw [Rule.isAttributeRule, fires] at plain
    contradiction

/-- What a linter holds after a history, and what it answers. -/
structure Holds (history : List Command) (linter : Linter) : Prop where
  rules : linter.rules = kept history
  size : linter.size = (kept history).length
  read : (run (history ++ [.read])).copies.getLast? = some (kept history)
  removed : ∀ kind, linter.hasKind kind = true ↔
    (run (history ++ [.unregister kind])).linter.size < linter.size
  divided : Divided linter

/-- After any history a linter holds the rules that were registered and not taken away later, each as often as it was
registered, and divides them into those for attributes and those for nodes. -/
theorem rules_follow_the_history (history : List Command) :
    (registrations history).map (·.rule) = history.flatMap registered ∧ Holds history (run history).linter := by
  have rules := rules_run history
  refine ⟨rule_registrations history, ?_⟩
  constructor
  case rules => exact rules
  case size => exact congrArg List.length rules
  case read => rw [run_concat, Memory.step, Memory.copies_hand, List.getLast?_concat, rules]
  case removed =>
    intro kind
    rw [run_concat, Memory.step, Memory.linter_replace]
    exact hasKind_iff _ kind
  case divided => exact divided _

/-- A rule may come back after all of its kind were taken away, and nothing is left once all kinds are. -/
example :
    let busy : List Command := [.registerAll [.imgReqAlt, .classNoDup, .imgReqAlt], .read, .unregister "ImgReqAltRule",
      .clear 0, .register .idNoWhitespace, .register .imgReqAlt]
    (run busy).linter.rules.map (·.name) = ["class-no-dup", "id-no-whitespace", "img-req-alt"] ∧
      (run (busy ++ [.unregister "Rule"])).linter.size = 0 := by decide +kernel

end TagLint.Proofs.Registrations
