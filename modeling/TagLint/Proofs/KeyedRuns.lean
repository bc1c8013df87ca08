import TagLint.Proofs.RepeatedRuns
import TagLint.Proofs.RunOrder

/-! Runs over documents whose attributes have their keys for names. Visits only open the nodes of such a document, so
what is asked about a node itself does not depend on what was visited before it. -/

namespace TagLint.Proofs.KeyedRuns
open PassPlans PassFailures Agendas NodeStates Branches RepeatedRuns

/-- Rules leave the node as it is once it has been opened. -/
def Steady (node : Node) : Prop :=
  node.isElement = true → Keyed node

variable {linter : Linter} {options : Datum} {node : Node}

theorem Steady.opened (steady : Steady node) : Steady (opened node) := by
  intro element
  rw [opened_isElement] at element
  exact (steady element).opened

private theorem named_of_keyed (keyed : Keyed node) : named node = node := by
  rw [named, Attributes.map_eq_self]
  intro entry member
  rw [← keyed entry member]

theorem left_of_steady {rule : Rule} (steady : Steady node) (fires : rule.firesOn node.type = true) :
    left rule node = node := by
  cases rule with
  | check profile run => rfl
  | fanOut subscribers => exact named_of_keyed (steady fires)

private theorem leftInTurn_of_steady {rules : List Rule} (steady : Steady node)
    (fire : ∀ rule ∈ rules, rule.firesOn node.type = true) : leftInTurn rules node = node := by
  induction rules with
  | nil => rfl
  | cons rule rules ih =>
    obtain ⟨fires, fire⟩ := List.forall_mem_cons.mp fire
    rw [leftInTurn, List.foldl_cons, left_of_steady steady fires]
    exact ih fire

theorem ready_of_steady (linter : Linter) (steady : Steady node) : ready linter node = opened node := by
  rw [ready]
  split
  next both =>
    have element : (opened node).isElement = true := by
      rw [opened_isElement]
      exact (Bool.and_eq_true_iff.mp both).1
    exact named_of_keyed (steady.opened element)
  next => rfl

private theorem leaves_of_steady (linter : Linter) (steady : Steady node) : leaves linter node = opened node := by
  rw [leaves, ready_of_steady linter steady]
  apply leftInTurn_of_steady steady.opened
  intro rule member
  rw [opened_type]
  exact (mem_firing.mp member).2.2

theorem opened_opened (node : Node) : opened (opened node) = opened node :=
  Visited.opened (Renamed.refl (opened node))

theorem agenda_opened (linter : Linter) (options : Datum) (below : List (Tree Node)) (node : Node) :
    agenda linter options below (opened node) = agenda linter options below node := by
  rw [agenda, agenda, ready, ready, opened_isElement, opened_type, opened_opened]

theorem located_flatMap {α : Type} (source? : Option String) (items : List α) (found : α → List Issue) :
    Linter.located source? (items.flatMap found) = items.flatMap fun item => Linter.located source? (found item) := by
  cases source? with
  | none => rfl
  | some source => exact List.map_flatMap

section Run

variable {n : Nat} {nodes : Vector Node n} {i j : Fin n}

/-- The nodes after a visit that does no more than open the node that it comes to. -/
def openAt (nodes : Vector Node n) (i : Fin n) : Vector Node n :=
  nodes.set i (opened (nodes.get i)) i.isLt

theorem afterVisit_of_steady (linter : Linter) (steady : Steady (nodes.get i)) :
    afterVisit linter nodes i = openAt nodes i := by
  rw [afterVisit, leaves_of_steady linter steady, openAt]

theorem openAt_get (nodes : Vector Node n) (i j : Fin n) :
    (openAt nodes i).get j = nodes.get j ∨ (openAt nodes i).get j = opened (nodes.get j) := by
  by_cases same : i = j
  · subst same
    exact .inr (set_here nodes i _)
  · exact .inl (set_elsewhere nodes same _)

theorem Steady.openAt (steady : Steady (nodes.get j)) (i : Fin n) : Steady ((openAt nodes i).get j) := by
  rcases openAt_get nodes i j with same | same
  · exact same ▸ steady
  · exact same ▸ steady.opened

variable {request : Request} {forest : List (Tree (Fin n))}

/-- A run that succeeds opens the nodes that it comes to, whatever its rules. -/
theorem lint_opens (keyed : ∀ i ∈ Tree.preorderAll forest, Keyed (nodes.get i))
    (succeeded : (linter.lint request forest nodes).result.isOk = true) (member : j ∈ Tree.preorderAll forest) :
    (linter.lint request forest nodes).state.get j = opened (nodes.get j) := by
  rw [result_lint] at succeeded
  rw [state_lint]
  cases ended : (Linter.visitAll linter.runRules request (Tree.branchesAll forest) nodes).result with
  | error failure =>
    rw [ended] at succeeded
    contradiction
  | ok issues =>
    have visited := visitAll_visited ended (label_branchesAll forest ▸ member)
    exact eq_opened_of_visited visited (keyed j member)

theorem lint_elsewhere (absent : j ∉ Tree.preorderAll forest) :
    (linter.lint request forest nodes).state.get j = nodes.get j := by
  rw [← label_branchesAll] at absent
  rw [state_lint, visitAll_elsewhere absent]

end Run

end TagLint.Proofs.KeyedRuns
