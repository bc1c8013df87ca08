import Mathlib.Data.List.Forall2
import TagLint.Proofs.Agendas
import TagLint.Proofs.Duplicates
import TagLint.Proofs.PassFailures

/-! What visits leave of the nodes of a document, whether they fail or not. A visited element is annotated, and rules
change nothing of it but the names of attributes, which may be replaced by their keys. -/

namespace TagLint.Proofs.NodeStates
open PassFailures Agendas Branches Duplicates

variable {rules : List Rule} {request : Request} {below : List (Tree Node)} {node before after : Node}

def Renaming (before after : String × Attribute) : Prop :=
  after.1 = before.1 ∧ (after.2 = before.2 ∨ after.2 = { before.2 with name := before.1 })

theorem Renaming.trans {first second third : String × Attribute} (one : Renaming first second)
    (two : Renaming second third) : Renaming first third := by
  obtain ⟨key, name⟩ := one
  obtain ⟨sameKey, sameName⟩ := two
  refine ⟨sameKey.trans key, ?_⟩
  rw [key] at sameName
  rcases name with same | renamed
  · rwa [same] at sameName
  · rw [renamed] at sameName
    right
    rcases sameName with same | again
    · exact same
    · exact again

theorem forall₂_trans {α : Type} {R : α → α → Prop} (trans : ∀ {a b c}, R a b → R b c → R a c)
    {first second third : List α} (one : List.Forall₂ R first second) (two : List.Forall₂ R second third) :
    List.Forall₂ R first third := by
  induction one generalizing third with
  | nil => exact two
  | cons head tail ih =>
    cases two with
    | cons next rest => exact .cons (trans head next) (ih rest)

/-- The same node, but for names of attributes. -/
structure Renamed (before after : Node) : Prop where
  node : after = { before with attributes := after.attributes }
  entries : List.Forall₂ Renaming before.attributes.entries after.attributes.entries

theorem Renamed.refl (node : Node) : Renamed node node :=
  ⟨rfl, List.forall₂_same.mpr fun _ _ => ⟨rfl, .inl rfl⟩⟩

theorem Renamed.trans {first second third : Node} (one : Renamed first second) (two : Renamed second third) :
    Renamed first third := by
  refine ⟨?_, forall₂_trans (R := Renaming) Renaming.trans one.entries two.entries⟩
  have same := two.node
  rw [one.node] at same
  exact same

theorem Renamed.type (renamed : Renamed before after) : after.type = before.type :=
  (congrArg Node.type renamed.node :)

theorem Renamed.resolved (renamed : Renamed before after) : after.attributesResolved = before.attributesResolved :=
  (congrArg Node.attributesResolved renamed.node :)

theorem Renamed.describe (renamed : Renamed before after) : after.describe = before.describe := by
  have size : after.attributes.size = before.attributes.size := renamed.entries.length_eq.symm
  have name : after.name = before.name := (congrArg Node.name renamed.node :)
  simp only [Node.describe, renamed.type, name, size]

private theorem renamed_named (node : Node) : Renamed node (named node) := by
  refine ⟨rfl, ?_⟩
  rw [named, Attributes.map, List.forall₂_map_right_iff, List.forall₂_same]
  exact fun _ _ => ⟨rfl, .inr rfl⟩

theorem renamed_left (rule : Rule) (node : Node) : Renamed node (left rule node) := by
  cases rule with
  | check profile run => exact .refl node
  | fanOut subscribers => exact renamed_named node

private theorem renamed_leftInTurn (rules : List Rule) (node : Node) : Renamed node (leftInTurn rules node) := by
  induction rules generalizing node with
  | nil => exact .refl node
  | cons rule rules ih => exact (renamed_left rule node).trans (ih _)

private theorem applyToAttribute_state (options : Datum) (rules : List Rule) (attr : Attribute) :
    (Rule.applyToAttribute options rules attr).state = attr :=
  inTurn_keeps (P := (· = attr)) (fun _ _ same => same) rules rfl

theorem deliver_state (fanOut node : String) (subscribers : List Rule) (options : Datum) (key : String)
    (attr : Attribute) :
    (Rule.deliver fanOut node subscribers options key attr).state = { attr with name := key } := by
  unfold Rule.deliver
  dsimp only
  split
  · rfl
  · apply andThen_keeps (P := fun state : Attribute => state = { attr with name := key })
    · rfl
    · exact applyToAttribute_state ..

theorem renamed_dispatch (fanOut : String) (subscribers : List Rule) (options : Datum) (node : Node) :
    Renamed node (Rule.dispatch fanOut subscribers options node).state := by
  refine ⟨rfl, ?_⟩
  change List.Forall₂ Renaming node.attributes.entries
    (Pass.sweepEntries (Rule.deliver fanOut node.name subscribers options) node.attributes.entries).state
  generalize node.attributes.entries = entries
  induction entries with
  | nil => exact .nil
  | cons entry entries ih =>
    obtain ⟨key, attr⟩ := entry
    have here : Renaming (key, attr) (key, (Rule.deliver fanOut node.name subscribers options key attr).state) :=
      ⟨rfl, .inr (deliver_state ..)⟩
    simp only [Pass.sweepEntries]
    split
    · exact .cons here (List.forall₂_same.mpr fun _ _ => ⟨rfl, .inl rfl⟩)
    · exact .cons here ih

theorem renamed_onNode (options : Datum) (below : List (Tree Node)) (rule : Rule) (node : Node) :
    Renamed node (rule.onNode options below node).state := by
  cases rule with
  | check profile run => exact .refl node
  | fanOut subscribers => exact renamed_dispatch ..

theorem renamed_ask (request : Request) (below : List (Tree Node)) (rule : Rule) (node : Node) :
    Renamed node (Linter.ask request below rule node).state := by
  rw [Linter.ask, onFailure_state]
  exact renamed_onNode ..

/-- A visit is asking rules about the opened node, but for what is told of its annotation. -/
theorem visit_eq (rules : List Rule) (request : Request) (below : List (Tree Node)) (node : Node) :
    Linter.visit rules request below node =
      (if node.isElement then Pass.notices (opened node) node.annotationNotices else .rest (opened node)).andThen
        (Pass.inTurn (Linter.ask request below) (rules.filter (·.firesOn node.type))) := by
  unfold Linter.visit opened
  cases node.isElement <;> rfl

theorem renamed_visit (rules : List Rule) (request : Request) (below : List (Tree Node)) (node : Node) :
    Renamed (opened node) (Linter.visit rules request below node).state := by
  have state : (if node.isElement then Pass.notices (ε := DocumentFailure) (opened node) node.annotationNotices
      else .rest (opened node)).state = opened node := by
    split <;> rfl
  rw [visit_eq]
  apply andThen_keeps
  · rw [state]
    exact .refl _
  · rw [state]
    exact inTurn_keeps (fun rule _ renamed => renamed.trans (renamed_ask request below rule _)) _ (.refl _)

/-- Rules that fire on a node that is no element see it and leave it alone, for fan-outs fire on elements only. -/
theorem asked_plain (rules : List Rule) (plain : node.isElement = false) :
    (Pass.inTurn (Linter.ask request below) (rules.filter (·.firesOn node.type)) node).state = node := by
  induction rules with
  | nil => rfl
  | cons rule rules ih =>
    by_cases fires : rule.firesOn node.type = true
    · have here : (Linter.ask request below rule node).state = node := by
        rw [Linter.ask, onFailure_state]
        cases rule with
        | check profile run => rfl
        | fanOut subscribers => exact absurd fires (Bool.eq_false_iff.mp plain)
      rw [List.filter_cons, if_pos fires]
      apply andThen_keeps (P := (· = node))
      · exact here
      · rw [here]
        exact ih
    · rw [List.filter_cons, if_neg fires]
      exact ih

theorem visit_plain (rules : List Rule) (request : Request) (below : List (Tree Node))
    (plain : node.isElement = false) : (Linter.visit rules request below node).state = node := by
  have same : opened node = node := by simp [opened, plain]
  rw [visit_eq, same, plain]
  apply andThen_keeps (P := (· = node))
  · rfl
  · exact asked_plain rules plain

/-- What visits leave of a node that they came to. -/
def Visited (before after : Node) : Prop :=
  Renamed (opened before) after

theorem visited_ready (linter : Linter) (node : Node) : Visited node (ready linter node) := by
  unfold Visited ready
  split
  · exact renamed_named _
  · exact .refl _

theorem visited_leaves (linter : Linter) (node : Node) : Visited node (leaves linter node) :=
  Renamed.trans (visited_ready linter node) (renamed_leftInTurn _ _)

theorem Visited.type (visited : Visited before after) : after.type = before.type :=
  (Renamed.type visited).trans (opened_type before)

theorem Visited.isElement (visited : Visited before after) : after.isElement = before.isElement := by
  rw [Node.isElement, visited.type, Node.isElement]

theorem Visited.resolved (visited : Visited before after) (element : after.isElement = true) :
    after.attributesResolved = true := by
  rw [visited.isElement] at element
  exact (Renamed.resolved visited).trans (opened_resolved element)

theorem Visited.opened (visited : Visited before after) : opened after = after := by
  rw [Agendas.opened]
  split
  next element => rw [Node.annotated, if_pos (visited.resolved element)]
  next => rfl

theorem Visited.trans {first second third : Node} (one : Visited first second) (two : Visited second third) :
    Visited first third := by
  rw [Visited, one.opened] at two
  exact Renamed.trans one two

/-- What an occurrence in the tag of its node makes of an attribute, under its name or its key. -/
def FoundIn (tag : OpenTag) (before after : String × Attribute) : Prop :=
  ∃ attr, Resolved (tag.index + 1) (occurrencesOf tag before.1) before.2 attr ∧ Renaming (before.1, attr) after

/-- The same node with its attributes as they stand in its tag, but for their names. They are looked for only once. -/
structure Annotated (before after : Node) : Prop where
  node : after = { before with attributes := after.attributes, attributesResolved := true }
  found : before.attributesResolved = false →
    List.Forall₂ (FoundIn before.openTag) before.attributes.entries after.attributes.entries
  kept : before.attributesResolved = true →
    List.Forall₂ Renaming before.attributes.entries after.attributes.entries

theorem Visited.annotated (visited : Visited before after) (element : before.isElement = true) :
    Annotated before after := by
  obtain ⟨node, entries⟩ := visited
  rw [Agendas.opened, if_pos element, Node.annotated] at node entries
  split at node
  next resolved =>
    rw [if_pos resolved] at entries
    constructor
    case node => rwa [← resolved]
    case found => exact fun due => absurd (due.symm.trans resolved) Bool.false_ne_true
    case kept => exact fun _ => entries
  next due =>
    rw [if_neg due, locate_eq_map] at entries
    constructor
    case node => exact node
    case found =>
      intro _
      apply (List.forall₂_map_left_iff.mp entries).imp
      exact fun entry _ renamed => ⟨_, settle_resolves .., renamed⟩
    case kept => exact fun resolved => absurd resolved due

theorem opened_describe (node : Node) : (opened node).describe = node.describe := by
  unfold opened
  split
  · rw [Node.annotated]
    split
    · rfl
    · have size : (node.attributes.locate node.openTag).size = node.attributes.size := by
        rw [locate_eq_map, Attributes.size, Attributes.map, List.length_map, Attributes.size]
      simp only [Node.describe, size]
  · rfl

theorem Visited.describe (visited : Visited before after) : after.describe = before.describe :=
  (Renamed.describe visited).trans (opened_describe before)

section Document

variable {n : Nat} {branches : List (Tree (Fin n))} {nodes : Vector Node n} {j : Fin n}

private theorem set_visited {i : Fin n} (visited : Visited (nodes.get i) node) :
    (nodes.set i node i.isLt).get j = nodes.get j ∨ Visited (nodes.get j) ((nodes.set i node i.isLt).get j) := by
  by_cases same : i = j
  · subst same
    right
    rwa [set_here]
  · left
    exact set_elsewhere nodes same node

theorem documentAfter_touched (linter : Linter) (branches : List (Tree (Fin n))) (nodes : Vector Node n) (j : Fin n) :
    (documentAfter linter branches nodes).get j = nodes.get j ∨
      Visited (nodes.get j) ((documentAfter linter branches nodes).get j) := by
  induction branches generalizing nodes with
  | nil => exact .inl rfl
  | cons branch branches ih =>
    have here := set_visited (j := j) (visited_leaves linter (nodes.get branch.label))
    rw [← afterVisit] at here
    rcases ih (afterVisit linter nodes branch.label), here with ⟨same | later, kept | visited⟩
    · exact .inl (same.trans kept)
    · exact .inr (same ▸ visited)
    · exact .inr (kept ▸ later)
    · exact .inr (visited.trans later)

private theorem visitAll_cons (branch : Tree (Fin n)) (branches : List (Tree (Fin n))) (nodes : Vector Node n) :
    Linter.visitAll rules request (branch :: branches) nodes =
      ((Linter.visit rules request (Linter.below nodes branch) (nodes.get branch.label)).mapState
        (nodes.set branch.label · branch.label.isLt)).andThen (Linter.visitAll rules request branches) :=
  rfl

theorem visitAll_elsewhere (absent : j ∉ branches.map Tree.label) :
    (Linter.visitAll rules request branches nodes).state.get j = nodes.get j := by
  induction branches generalizing nodes with
  | nil => rfl
  | cons branch branches ih =>
    obtain ⟨other, absent⟩ := not_or.mp (mt List.mem_cons.mpr absent)
    have kept := set_elsewhere nodes (Ne.symm other)
    rw [visitAll_cons]
    apply andThen_keeps (P := fun state : Vector Node n => state.get j = nodes.get j)
    · exact kept _
    · exact (ih absent).trans (kept _)

theorem visitAll_touched (rules : List Rule) (request : Request) (branches : List (Tree (Fin n)))
    (nodes : Vector Node n) (j : Fin n) :
    (Linter.visitAll rules request branches nodes).state.get j = nodes.get j ∨
      Visited (nodes.get j) ((Linter.visitAll rules request branches nodes).state.get j) := by
  apply inTurn_keeps
    (P := fun state : Vector Node n => state.get j = nodes.get j ∨ Visited (nodes.get j) (state.get j))
  case begun => exact .inl rfl
  case keeps =>
    intro branch state touched
    have here := renamed_visit rules request (Linter.below state branch) (state.get branch.label)
    rcases set_visited (j := j) here with same | visited
    · change (state.set branch.label _ branch.label.isLt).get j = nodes.get j ∨
        Visited (nodes.get j) ((state.set branch.label _ branch.label.isLt).get j)
      rwa [same]
    · right
      rcases touched with same | earlier
      · rwa [same] at visited
      · exact earlier.trans visited

theorem visitAll_plain (rules : List Rule) (request : Request) (branches : List (Tree (Fin n))) {nodes : Vector Node n}
    (plain : (nodes.get j).isElement = false) :
    (Linter.visitAll rules request branches nodes).state.get j = nodes.get j := by
  apply inTurn_keeps (P := fun state : Vector Node n => state.get j = nodes.get j)
  case begun => rfl
  case keeps =>
    intro branch state kept
    change (state.set branch.label (Linter.visit rules request _ (state.get branch.label)).state
      branch.label.isLt).get j = nodes.get j
    by_cases same : branch.label = j
    · subst same
      rw [set_here, visit_plain rules request _ (kept ▸ plain)]
      exact kept
    · rw [set_elsewhere state same]
      exact kept

/-- Unless it fails, a run comes to every node. -/
theorem visitAll_visited {issues : List Issue}
    (succeeded : (Linter.visitAll rules request branches nodes).result = .ok issues)
    (member : j ∈ branches.map Tree.label) :
    Visited (nodes.get j) ((Linter.visitAll rules request branches nodes).state.get j) := by
  induction branches generalizing nodes issues with
  | nil => contradiction
  | cons branch branches ih =>
    have left := renamed_visit rules request (Linter.below nodes branch) (nodes.get branch.label)
    have here := set_visited (j := j) left
    rw [visitAll_cons] at succeeded ⊢
    obtain ⟨-, ⟨later, ended⟩, state⟩ := ok_of_andThen succeeded
    rw [state]
    by_cases further : j ∈ branches.map Tree.label
    · have visited := ih ended further
      rcases here with same | earlier
      · exact same ▸ visited
      · exact earlier.trans visited
    · obtain rfl : j = branch.label := (List.mem_cons.mp member).resolve_right further
      change Visited _ ((Linter.visitAll rules request branches (nodes.set branch.label _ branch.label.isLt)).state.get
        branch.label)
      rw [visitAll_elsewhere further, set_here]
      exact left

/-- The nodes with the last visit, that of node `i`, still under way. -/
theorem visited_of_mem {issues : List Issue} {i : Fin n}
    (succeeded : (Linter.visitAll rules request branches nodes).result = .ok issues)
    (here : Visited ((Linter.visitAll rules request branches nodes).state.get i) node)
    (member : j ∈ branches.map Tree.label ++ [i]) :
    Visited (nodes.get j) (((Linter.visitAll rules request branches nodes).state.set i node i.isLt).get j) := by
  by_cases same : i = j
  · subst same
    rw [set_here]
    rcases visitAll_touched rules request branches nodes i with untouched | earlier
    · rwa [untouched] at here
    · exact earlier.trans here
  · rw [set_elsewhere _ same]
    apply visitAll_visited succeeded
    rcases List.mem_append.mp member with earlier | last
    · exact earlier
    · exact absurd (List.mem_singleton.mp last).symm same

theorem untouched_of_not_mem {i : Fin n} (absent : j ∉ branches.map Tree.label ++ [i]) :
    ((Linter.visitAll rules request branches nodes).state.set i node i.isLt).get j = nodes.get j := by
  rw [List.mem_append, not_or] at absent
  have other : i ≠ j := fun same => absent.2 (List.mem_singleton.mpr same.symm)
  rw [set_elsewhere _ other, visitAll_elsewhere absent.1]

theorem result_lint (linter : Linter) (request : Request) (forest : List (Tree (Fin n))) (nodes : Vector Node n) :
    (linter.lint request forest nodes).result =
      (Linter.visitAll linter.runRules request (Tree.branchesAll forest) nodes).result.map
        (Linter.located request.source?) := by
  rw [← walkAll_branchedAll]
  unfold Linter.lint
  dsimp only
  split
  next failure failed =>
    rw [failed]
    rfl
  next issues succeeded =>
    rw [succeeded]
    rfl

theorem state_lint (linter : Linter) (request : Request) (forest : List (Tree (Fin n))) (nodes : Vector Node n) :
    (linter.lint request forest nodes).state =
      (Linter.visitAll linter.runRules request (Tree.branchesAll forest) nodes).state := by
  rw [← walkAll_branchedAll]
  unfold Linter.lint
  dsimp only
  split <;> rfl

end Document

end TagLint.Proofs.NodeStates
