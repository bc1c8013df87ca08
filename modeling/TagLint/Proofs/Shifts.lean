import TagLint.Proofs.Agendas
import TagLint.Proofs.Duplicates

/-! Documents that are shifted by a distance. Offsets are counted from that of the tag, so whatever is asked about a
shifted node is asked about the node itself, and shifted. Tags that stand in a source have no offsets before its start. -/

namespace TagLint.Proofs.Shifts
open PassPlans Agendas Branches Duplicates

def shiftAttribute (distance : Int) (attr : Attribute) : Attribute :=
  { attr with
    nameIndex? := attr.nameIndex?.map (· + distance)
    valueIndex? := attr.valueIndex?.map (· + distance) }

def shiftTag (distance : Int) (tag : OpenTag) : OpenTag :=
  { tag with index := tag.index + distance }

def shiftNode (distance : Int) (node : Node) : Node :=
  { node with
    openTag := shiftTag distance node.openTag
    attributes := node.attributes.map fun _ => shiftAttribute distance }

def shiftTarget (distance : Int) : Target → Target
  | .node node below => .node (shiftNode distance node) (Tree.mapAll (shiftNode distance) below)
  | .attr attr => .attr (shiftAttribute distance attr)

def shiftCall (distance : Int) (call : Invocation) : Invocation :=
  { call with target := shiftTarget distance call.target }

variable (distance : Int)

theorem observe_shift (base : Int) (occ : Occurrence) (attr : Attribute) :
    (shiftAttribute distance attr).observe (base + distance) occ = shiftAttribute distance (attr.observe base occ) := by
  have passes : (shiftAttribute distance attr).passesOver occ = attr.passesOver occ := by
    simp [Attribute.passesOver, shiftAttribute]
  rw [Attribute.observe, Attribute.observe, passes]
  split
  · rfl
  · have swap (offset : Nat) : base + distance + offset = base + offset + distance := by omega
    cases valued : occ.valueStart? <;> simp [Attribute.take, shiftAttribute, valued, swap]

theorem shown_shift (base : Int) (occs : List Occurrence) (attr : Attribute) :
    shown (base + distance) occs (shiftAttribute distance attr) = shiftAttribute distance (shown base occs attr) := by
  induction occs generalizing attr with
  | nil => rfl
  | cons occ occs ih =>
    rw [shown, List.foldl_cons, observe_shift]
    exact ih (attr.observe base occ)

theorem settle_shift (attr : Attribute) :
    (shiftAttribute distance attr).settle = shiftAttribute distance attr.settle := by
  cases valued : attr.valueIndex? <;> simp [Attribute.settle, shiftAttribute, valued]

theorem locate_shift (attrs : Attributes) (tag : OpenTag) :
    (attrs.map fun _ => shiftAttribute distance).locate (shiftTag distance tag) =
      (attrs.locate tag).map fun _ => shiftAttribute distance := by
  rw [locate_eq_map, locate_eq_map, Attributes.map_map, Attributes.map_map]
  congr 1
  funext key attr
  have base : (shiftTag distance tag).index + 1 = tag.index + 1 + distance := by
    change tag.index + distance + 1 = _
    omega
  have same : occurrencesOf (shiftTag distance tag) key = occurrencesOf tag key := rfl
  rw [base, same, shown_shift, settle_shift]

theorem annotated_shift (node : Node) : (shiftNode distance node).annotated = shiftNode distance node.annotated := by
  unfold Node.annotated
  change (if node.attributesResolved then _ else _) = _
  split
  · rfl
  · simp only [shiftNode, locate_shift]

theorem opened_shift (node : Node) : opened (shiftNode distance node) = shiftNode distance (opened node) := by
  unfold opened
  change (if node.isElement then _ else _) = _
  split
  · exact annotated_shift distance node
  · rfl

theorem named_shift (node : Node) : named (shiftNode distance node) = shiftNode distance (named node) := by
  simp only [named, shiftNode, Attributes.map_map]
  rfl

theorem shows_shift (options : Datum) (subscribers : List Rule) (node : Node) :
    shows options subscribers (shiftNode distance node) =
      (shows options subscribers node).map (shiftCall distance) := by
  rw [shows, shows, shiftNode, Attributes.map, List.flatMap_map, List.map_flatMap]
  apply List.flatMap_congr
  rintro ⟨key, attr⟩ -
  change deliveries options subscribers key (shiftAttribute distance attr) =
    (deliveries options subscribers key attr).map (shiftCall distance)
  rw [deliveries, deliveries, List.map_map]
  rfl

theorem calls_shift (options : Datum) (below : List (Tree Node)) (rule : Rule) (node : Node) :
    calls options (Tree.mapAll (shiftNode distance) below) rule (shiftNode distance node) =
      (calls options below rule node).map (shiftCall distance) := by
  cases rule with
  | check profile run => rfl
  | fanOut subscribers => exact shows_shift distance options subscribers node

theorem left_shift (rule : Rule) (node : Node) :
    left rule (shiftNode distance node) = shiftNode distance (left rule node) := by
  cases rule with
  | check profile run => rfl
  | fanOut subscribers => exact named_shift distance node

theorem callsInTurn_shift (options : Datum) (below : List (Tree Node)) (rules : List Rule) (node : Node) :
    callsInTurn options (Tree.mapAll (shiftNode distance) below) rules (shiftNode distance node) =
      (callsInTurn options below rules node).map (shiftCall distance) := by
  induction rules generalizing node with
  | nil => rfl
  | cons rule rules ih => rw [callsInTurn, callsInTurn, calls_shift, left_shift, ih, List.map_append]

theorem leftInTurn_shift (rules : List Rule) (node : Node) :
    leftInTurn rules (shiftNode distance node) = shiftNode distance (leftInTurn rules node) := by
  induction rules generalizing node with
  | nil => rfl
  | cons rule rules ih =>
    rw [leftInTurn, List.foldl_cons, left_shift]
    exact ih (left rule node)

theorem ready_shift (linter : Linter) (node : Node) :
    ready linter (shiftNode distance node) = shiftNode distance (ready linter node) := by
  unfold ready
  change (if node.isElement && _ then _ else _) = _
  rw [opened_shift]
  split
  · exact named_shift distance (opened node)
  · rfl

theorem agenda_shift (linter : Linter) (options : Datum) (below : List (Tree Node)) (node : Node) :
    agenda linter options (Tree.mapAll (shiftNode distance) below) (shiftNode distance node) =
      (agenda linter options below node).map (shiftCall distance) := by
  rw [agenda, agenda, opened_shift, ready_shift, shows_shift, callsInTurn_shift, List.map_append]
  congr 1
  change (if node.isElement then _ else _) = _
  split <;> rfl

theorem leaves_shift (linter : Linter) (node : Node) :
    leaves linter (shiftNode distance node) = shiftNode distance (leaves linter node) := by
  rw [leaves, leaves, ready_shift]
  exact leftInTurn_shift distance _ _

theorem below_shift {n : Nat} {nodes others : Vector Node n} {branch : Tree (Fin n)}
    (shifted : ∀ i ∈ branch.preorder, others.get i = shiftNode distance (nodes.get i)) :
    Linter.below others branch = Tree.mapAll (shiftNode distance) (Linter.below nodes branch) := by
  rw [Linter.below, Linter.below, mapAll_mapAll]
  exact mapAll_congr fun i member => shifted i (children_subset_preorder branch member)

/-- All of a shifted document is asked about in the order in which it would be asked about in its place. -/
theorem documentCalls_shift {n : Nat} (linter : Linter) (options : Datum) {branches : List (Tree (Fin n))}
    {nodes others : Vector Node n}
    (shifted : ∀ branch ∈ branches, ∀ i ∈ branch.preorder, others.get i = shiftNode distance (nodes.get i)) :
    documentCalls linter options branches others =
      (documentCalls linter options branches nodes).map (shiftCall distance) := by
  induction branches generalizing nodes others with
  | nil => rfl
  | cons branch branches ih =>
    obtain ⟨here, later⟩ := List.forall_mem_cons.mp shifted
    have root := here _ (label_mem_preorder branch)
    rw [documentCalls, documentCalls, root, below_shift distance here, agenda_shift, List.map_append]
    congr 1
    apply ih
    intro other among j member
    rw [afterVisit, afterVisit, root, leaves_shift]
    by_cases same : branch.label = j
    · subst same
      rw [set_here, set_here]
    · rw [set_elsewhere _ same, set_elsewhere _ same]
      exact later other among j member

section Offsets

/-- None of the offsets that are known lies before the start of the source. -/
structure Ahead (attr : Attribute) : Prop where
  name : ∀ index, attr.nameIndex? = some index → 0 ≤ index
  value : ∀ index, attr.valueIndex? = some index → 0 ≤ index

structure AheadNode (node : Node) : Prop where
  tag : 0 ≤ node.openTag.index
  attributes : ∀ entry ∈ node.attributes.entries, Ahead entry.2

def AheadTarget : Target → Prop
  | .node node _ => AheadNode node
  | .attr attr => Ahead attr

variable {attr : Attribute} {node : Node} {below : List (Tree Node)} {options : Datum} {call : Invocation}

theorem Ahead.observe (ahead : Ahead attr) {base : Int} (forward : 0 ≤ base) (occ : Occurrence) :
    Ahead (attr.observe base occ) := by
  rw [Attribute.observe]
  split
  · exact ahead
  · constructor
    case name =>
      intro index found
      cases found
      omega
    case value =>
      intro index found
      cases valued : occ.valueStart? with
      | none =>
        simp only [Attribute.take, valued, Option.elim_none] at found
        exact ahead.value index found
      | some start =>
        simp only [Attribute.take, valued, Option.elim_some, Option.some.injEq] at found
        omega

theorem Ahead.shown (ahead : Ahead attr) {base : Int} (forward : 0 ≤ base) (occs : List Occurrence) :
    Ahead (shown base occs attr) := by
  induction occs generalizing attr with
  | nil => exact ahead
  | cons occ occs ih => exact ih (ahead.observe forward occ)

theorem Ahead.settle (ahead : Ahead attr) : Ahead attr.settle := by
  refine ⟨ahead.name, ?_⟩
  intro index found
  cases valued : attr.valueIndex? with
  | none =>
    simp only [Attribute.settle, valued, Option.orElse_eq_orElse, Option.orElse_none] at found
    exact ahead.name index found
  | some other =>
    simp only [Attribute.settle, valued, Option.orElse_eq_orElse, Option.orElse_some] at found
    exact ahead.value index (valued.trans found)

theorem AheadNode.opened (ahead : AheadNode node) : AheadNode (opened node) := by
  unfold Agendas.opened Node.annotated
  split
  · split
    · exact ahead
    · refine ⟨ahead.tag, ?_⟩
      change ∀ entry ∈ (node.attributes.locate node.openTag).entries, Ahead entry.2
      rw [locate_eq_map]
      intro entry member
      obtain ⟨original, among, rfl⟩ := List.mem_map.mp member
      have tag := ahead.tag
      exact ((ahead.attributes original among).shown (by omega) _).settle
  · exact ahead

theorem AheadNode.named (ahead : AheadNode node) : AheadNode (named node) := by
  refine ⟨ahead.tag, ?_⟩
  intro entry member
  obtain ⟨original, among, rfl⟩ := List.mem_map.mp member
  obtain ⟨name, value⟩ := ahead.attributes original among
  exact ⟨name, value⟩

theorem AheadNode.left (ahead : AheadNode node) (rule : Rule) : AheadNode (left rule node) := by
  cases rule with
  | check profile run => exact ahead
  | fanOut subscribers => exact ahead.named

theorem AheadNode.leftInTurn (ahead : AheadNode node) (rules : List Rule) : AheadNode (leftInTurn rules node) := by
  induction rules generalizing node with
  | nil => exact ahead
  | cons rule rules ih => exact ih (ahead.left rule)

theorem AheadNode.ready (ahead : AheadNode node) (linter : Linter) : AheadNode (ready linter node) := by
  unfold Agendas.ready
  split
  · exact ahead.opened.named
  · exact ahead.opened

private theorem ahead_of_mem_shows {subscribers : List Rule} (ahead : AheadNode node)
    (member : call ∈ shows options subscribers node) : AheadTarget call.target := by
  simp only [shows, deliveries, List.mem_flatMap, List.mem_map] at member
  obtain ⟨⟨key, attr⟩, among, rule, -, rfl⟩ := member
  obtain ⟨name, value⟩ := ahead.attributes _ among
  exact ⟨name, value⟩

private theorem ahead_of_mem_callsInTurn {rules : List Rule} (ahead : AheadNode node)
    (member : call ∈ callsInTurn options below rules node) : AheadTarget call.target := by
  induction rules generalizing node with
  | nil => contradiction
  | cons rule rules ih =>
    rw [callsInTurn, List.mem_append] at member
    rcases member with here | later
    · cases rule with
      | check profile run =>
        obtain rfl := List.mem_singleton.mp here
        exact ahead
      | fanOut subscribers => exact ahead_of_mem_shows ahead here
    · exact ih (ahead.left rule) later

private theorem ahead_of_mem_agenda {linter : Linter} (ahead : AheadNode node)
    (member : call ∈ agenda linter options below node) : AheadTarget call.target := by
  rw [agenda, List.mem_append] at member
  rcases member with shown | asked
  · split at shown
    · exact ahead_of_mem_shows ahead.opened shown
    · contradiction
  · exact ahead_of_mem_callsInTurn (ahead.ready linter) asked

theorem ahead_of_mem_documentCalls {n : Nat} {linter : Linter} {branches : List (Tree (Fin n))} {nodes : Vector Node n}
    (ahead : ∀ i ∈ branches.map Tree.label, AheadNode (nodes.get i))
    (member : call ∈ documentCalls linter options branches nodes) : AheadTarget call.target := by
  induction branches generalizing nodes with
  | nil => contradiction
  | cons branch branches ih =>
    obtain ⟨here, later⟩ := List.forall_mem_cons.mp ahead
    rw [documentCalls, List.mem_append] at member
    rcases member with first | rest
    · exact ahead_of_mem_agenda here first
    · refine ih ?_ rest
      intro j among
      rw [afterVisit]
      by_cases same : branch.label = j
      · subst same
        rw [set_here]
        exact (here.ready linter).leftInTurn _
      · rw [set_elsewhere _ same]
        exact later j among

end Offsets

end TagLint.Proofs.Shifts
