import TagLint.Proofs.NodeStates

/-! Sessions: any sequence of runs and of single operations on the nodes of a document, runs that fail among them. What
a session has once found for an attribute it never takes back. -/

namespace TagLint.Proofs.Sessions
open Agendas NodeStates

variable {n : Nat}

/-- The trees of a document say which nodes are the children of which; the nodes themselves are kept beside them. -/
structure Document (n : Nat) where
  forest : List (Tree (Fin n))
  nodes : Vector Node n

inductive Operation (n : Nat)
  | lint (linter : Linter) (request : Request) (roots : List (Tree (Fin n)))
  | report (linter : Linter) (request : Request) (roots : List (Tree (Fin n)))
  | annotate (i : Fin n)
  | dispatch (fanOut : String) (subscribers : List Rule) (options : Datum) (i : Fin n)
  /-- Locates the attributes of a node in the text of any tag, its own or not. -/
  | locate (tag : OpenTag) (i : Fin n)

def Operation.isRun : Operation n → Bool
  | lint .. | report .. => true
  | annotate _ | dispatch .. | locate .. => false

/-- The nodes as an operation leaves them, whether it fails or not. -/
def Operation.leave (nodes : Vector Node n) : Operation n → Vector Node n
  | lint linter request roots => (linter.lint request roots nodes).state
  | report linter request roots => (linter.lintReport request roots nodes).2
  | annotate i => nodes.set i (nodes.get i).annotated
  | dispatch fanOut subscribers options i =>
    nodes.set i (Rule.dispatch fanOut subscribers options (nodes.get i)).state
  | locate tag i => nodes.set i { nodes.get i with attributes := (nodes.get i).attributes.locate tag }

def Document.after (document : Document n) (operations : List (Operation n)) : Document n :=
  { document with nodes := operations.foldl Operation.leave document.nodes }

structure AttributeKept (before after : String × Attribute) : Prop where
  key : after.1 = before.1
  value : after.2.value? = before.2.value?
  name : after.2.name = before.2.name ∨ after.2.name = before.1
  located : before.2.valueIndex?.isSome → after.2.nameIndex? = before.2.nameIndex? ∧
    after.2.valueIndex? = before.2.valueIndex? ∧ after.2.rawValue? = before.2.rawValue? ∧
    after.2.rawAssignment? = before.2.rawAssignment?

theorem AttributeKept.refl (entry : String × Attribute) : AttributeKept entry entry :=
  ⟨rfl, rfl, .inl rfl, fun _ => ⟨rfl, rfl, rfl, rfl⟩⟩

theorem AttributeKept.trans {first second third : String × Attribute} (one : AttributeKept first second)
    (two : AttributeKept second third) : AttributeKept first third := by
  constructor
  case key => exact two.key.trans one.key
  case value => exact two.value.trans one.value
  case name =>
    rcases two.name with same | renamed
    · exact same ▸ one.name
    · exact .inr (renamed.trans one.key)
  case located =>
    intro found
    obtain ⟨name, value, raw, assignment⟩ := one.located found
    obtain ⟨laterName, laterValue, laterRaw, laterAssignment⟩ := two.located (value ▸ found)
    exact ⟨laterName.trans name, laterValue.trans value, laterRaw.trans raw, laterAssignment.trans assignment⟩

structure NodeKept (before after : Node) : Prop where
  type : after.type = before.type
  name : after.name = before.name
  openTag : after.openTag = before.openTag
  data : after.data? = before.data?
  attributes : List.Forall₂ AttributeKept before.attributes.entries after.attributes.entries
  resolved : before.attributesResolved = true → after.attributesResolved = true

theorem NodeKept.refl (node : Node) : NodeKept node node :=
  ⟨rfl, rfl, rfl, rfl, List.forall₂_same.mpr fun entry _ => .refl entry, id⟩

theorem NodeKept.trans {first second third : Node} (one : NodeKept first second) (two : NodeKept second third) :
    NodeKept first third := by
  constructor
  case type => exact two.type.trans one.type
  case name => exact two.name.trans one.name
  case openTag => exact two.openTag.trans one.openTag
  case data => exact two.data.trans one.data
  case attributes => exact forall₂_trans (R := AttributeKept) AttributeKept.trans one.attributes two.attributes
  case resolved => exact fun resolved => two.resolved (one.resolved resolved)

private theorem kept_of_renaming {before after : String × Attribute} (renamed : Renaming before after) :
    AttributeKept before after := by
  obtain ⟨key, same | renamed⟩ := renamed
  · exact ⟨key, by rw [same], .inl (by rw [same]), fun _ => by simp [same]⟩
  · exact ⟨key, by rw [renamed], .inr (by rw [renamed]), fun _ => by simp [renamed]⟩

private theorem kept_of_renamed {before after : Node} (renamed : Renamed before after) : NodeKept before after := by
  constructor
  case type => exact renamed.type
  case name => exact (congrArg Node.name renamed.node :)
  case openTag => exact (congrArg Node.openTag renamed.node :)
  case data => exact (congrArg Node.data? renamed.node :)
  case attributes => exact renamed.entries.imp fun _ _ => kept_of_renaming
  case resolved => exact fun resolved => renamed.resolved.trans resolved

/-- A located attribute is passed over by every text that it is looked for in. -/
theorem kept_locate (attrs : Attributes) (tag : OpenTag) :
    List.Forall₂ AttributeKept attrs.entries (attrs.locate tag).entries := by
  rw [Duplicates.locate_eq_map, Attributes.map, List.forall₂_map_right_iff, List.forall₂_same]
  intro entry _
  have resolved := Duplicates.settle_resolves (tag.index + 1) (Duplicates.occurrencesOf tag entry.1) entry.2
  constructor
  case key => rfl
  case value => exact resolved.value
  case name => exact .inl resolved.name
  case located =>
    intro found
    have same := resolved.fixed found
    exact ⟨congrArg _ same, congrArg _ same, congrArg _ same, congrArg _ same⟩

private theorem kept_located (node : Node) (tag : OpenTag) (resolved : Bool)
    (stays : node.attributesResolved = true → resolved = true) :
    NodeKept node { node with attributes := node.attributes.locate tag, attributesResolved := resolved } :=
  ⟨rfl, rfl, rfl, rfl, kept_locate node.attributes tag, stays⟩

theorem kept_annotated (node : Node) : NodeKept node node.annotated := by
  rw [Node.annotated]
  split
  · exact .refl node
  · exact kept_located node node.openTag true fun _ => rfl

theorem kept_of_visited {before after : Node} (visited : Visited before after) : NodeKept before after := by
  apply NodeKept.trans _ (kept_of_renamed visited)
  rw [opened]
  split
  · exact kept_annotated before
  · exact .refl before

theorem kept_lint (linter : Linter) (request : Request) (roots : List (Tree (Fin n))) (nodes : Vector Node n)
    (i : Fin n) : NodeKept (nodes.get i) ((linter.lint request roots nodes).state.get i) := by
  rw [state_lint]
  rcases visitAll_touched linter.runRules request (Tree.branchesAll roots) nodes i with same | visited
  · rw [same]
    exact .refl _
  · exact kept_of_visited visited

private theorem kept_set {nodes : Vector Node n} {i : Fin n} {node : Node} (kept : NodeKept (nodes.get i) node)
    (j : Fin n) : NodeKept (nodes.get j) ((nodes.set i node i.isLt).get j) := by
  by_cases same : i = j
  · subst same
    rw [set_here]
    exact kept
  · rw [set_elsewhere nodes same]
    exact .refl _

theorem Operation.keeps (operation : Operation n) (nodes : Vector Node n) (i : Fin n) :
    NodeKept (nodes.get i) ((operation.leave nodes).get i) := by
  cases operation with
  | lint linter request roots => exact kept_lint linter request roots nodes i
  | report linter request roots => exact kept_lint linter request roots nodes i
  | annotate j => exact kept_set (kept_annotated _) i
  | dispatch fanOut subscribers options j => exact kept_set (kept_of_renamed (renamed_dispatch ..)) i
  | locate tag j => exact kept_set (kept_located (nodes.get j) tag _ id) i

theorem Operation.leaves_plain {operation : Operation n} {nodes : Vector Node n} {i : Fin n}
    (run : operation.isRun = true) (plain : (nodes.get i).isElement = false) :
    (operation.leave nodes).get i = nodes.get i := by
  have same (linter : Linter) (request : Request) (roots : List (Tree (Fin n))) :
      (linter.lint request roots nodes).state.get i = nodes.get i := by
    rw [state_lint]
    exact visitAll_plain linter.runRules request _ plain
  cases operation with
  | lint linter request roots => exact same linter request roots
  | report linter request roots => exact same linter request roots
  | annotate _ => contradiction
  | dispatch _ _ _ _ => contradiction
  | locate _ _ => contradiction

theorem foldl_keeps (operations : List (Operation n)) (nodes : Vector Node n) (i : Fin n) :
    NodeKept (nodes.get i) ((operations.foldl Operation.leave nodes).get i) := by
  induction operations generalizing nodes with
  | nil => exact .refl _
  | cons operation operations ih => exact (operation.keeps nodes i).trans (ih _)

theorem foldl_leaves_plain {operations : List (Operation n)} {nodes : Vector Node n} {i : Fin n}
    (runs : ∀ operation ∈ operations, operation.isRun = true) (plain : (nodes.get i).isElement = false) :
    (operations.foldl Operation.leave nodes).get i = nodes.get i := by
  induction operations generalizing nodes with
  | nil => rfl
  | cons operation operations ih =>
    obtain ⟨run, runs⟩ := List.forall_mem_cons.mp runs
    have here := Operation.leaves_plain run plain
    exact (ih runs (here ▸ plain)).trans here

/-- What lies between two moments of a session. -/
structure Persists (operations : List (Operation n)) (before after : Document n) : Prop where
  forest : after.forest = before.forest
  nodes : ∀ i : Fin n, NodeKept (before.nodes.get i) (after.nodes.get i)
  plain : (∀ operation ∈ operations, operation.isRun = true) →
    ∀ i : Fin n, (before.nodes.get i).isElement = false → after.nodes.get i = before.nodes.get i

/-- Between any two moments of any session, documents keep their shape, nodes all that was built of them, and located
attributes where they were found. -/
theorem session_keeps_what_is_located (document : Document n) (earlier later : List (Operation n)) :
    Persists later (document.after earlier) (document.after (earlier ++ later)) := by
  have joined : (document.after (earlier ++ later)).nodes =
      later.foldl Operation.leave (document.after earlier).nodes := List.foldl_append
  constructor
  case forest => rfl
  case nodes =>
    rw [joined]
    exact foldl_keeps later _
  case plain =>
    intro runs i element
    rw [joined]
    exact foldl_leaves_plain runs element

end TagLint.Proofs.Sessions
