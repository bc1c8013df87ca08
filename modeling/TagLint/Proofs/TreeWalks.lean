import Mathlib.Data.List.Basic
import Mathlib.Logic.Function.Iterate
import TagLint.Proofs.DocumentOrder

/-! The walk of a tree, turn by turn and place by place. The loop takes a turn for each node and then has nothing left,
and it comes to the nodes in the order of their paths, which puts an ancestor before its descendants and all that is
below one sibling before all that is below the next. -/

namespace TagLint.Proofs.TreeWalks
open TagLint.Tree DocumentOrder

variable {α : Type u}

/-- How far a walk has come: the trees still to be visited, the next one last, and the labels visited so far. -/
@[ext] structure Loop (α : Type u) where
  pending : List (Tree α)
  visited : List α

/-- One turn takes the last tree off, visits its node and puts the children of the node back in reverse. -/
def Loop.turn (loop : Loop α) : Loop α :=
  match loop.pending.getLast? with
  | none => loop
  | some tree => ⟨loop.pending.dropLast ++ tree.children.reverse, loop.visited ++ [tree.label]⟩

/-- What a walk has visited and what it is still to visit. -/
def Loop.course (loop : Loop α) : List α :=
  loop.visited ++ preorderAll loop.pending.reverse

private theorem sizeAll_reverse (forest : List (Tree α)) : sizeAll forest.reverse = sizeAll forest := by
  induction forest with
  | nil => rfl
  | cons tree rest ih =>
    rw [List.reverse_cons, sizeAll_append, ih, sizeAll, sizeAll, sizeAll]
    omega

private theorem size_pos (tree : Tree α) : 0 < tree.size := by
  cases tree with
  | node label children => exact Nat.succ_pos _

private theorem sizeAll_eq_zero_iff {forest : List (Tree α)} : sizeAll forest = 0 ↔ forest = [] := by
  cases forest with
  | nil => simp [sizeAll]
  | cons tree rest =>
    have := size_pos tree
    simp [sizeAll]
    omega

/-- What one turn changes, where there is a tree left. -/
structure Turned (loop : Loop α) : Prop where
  course : loop.turn.course = loop.course
  visited : loop.turn.visited.length = loop.visited.length + 1
  pending : sizeAll loop.turn.pending + 1 = sizeAll loop.pending

private theorem turned {loop : Loop α} (goes : loop.pending ≠ []) : Turned loop := by
  obtain ⟨pending, visited⟩ := loop
  obtain ⟨rest, tree, rfl⟩ := pending.eq_nil_or_concat'.resolve_left goes
  obtain ⟨label, children⟩ := tree
  have turn : Loop.turn ⟨rest ++ [node label children], visited⟩ = ⟨rest ++ children.reverse, visited ++ [label]⟩ := by
    simp [Loop.turn, Tree.children, Tree.label]
  constructor
  case course => simp [turn, Loop.course, preorderAll, preorder, preorderAll_append]
  case visited => simp [turn]
  case pending =>
    simp only [turn, sizeAll_append, sizeAll_reverse, sizeAll, size]
    omega

theorem turns {loop : Loop α} {count : Nat} (few : count ≤ sizeAll loop.pending) :
    (Loop.turn^[count] loop).course = loop.course ∧
      (Loop.turn^[count] loop).visited.length = loop.visited.length + count ∧
      sizeAll (Loop.turn^[count] loop).pending + count = sizeAll loop.pending := by
  induction count with
  | zero => exact ⟨rfl, rfl, rfl⟩
  | succ count ih =>
    obtain ⟨course, visited, pending⟩ := ih (Nat.le_of_succ_le few)
    have goes : (Loop.turn^[count] loop).pending ≠ [] := by
      rw [Ne, ← sizeAll_eq_zero_iff]
      omega
    have next := turned goes
    rw [Function.iterate_succ_apply']
    refine ⟨next.course.trans course, ?_, ?_⟩
    · rw [next.visited, visited, Nat.add_assoc]
    · have := next.pending
      omega

/-- The label of the node at a path, which says at each step down which child is next. -/
def labelAt? : Tree α → List Nat → Option α
  | node label _, [] => some label
  | node _ children, i :: path => children[i]?.bind (labelAt? · path)

/-- The first path leads to an ancestor of what the second leads to, or branches off to the left of it. -/
inductive Precedes : List Nat → List Nat → Prop
  | ancestor (path : List Nat) (i : Nat) (below : List Nat) : Precedes path (path ++ i :: below)
  | sibling (path : List Nat) {i j : Nat} (left right : List Nat) (earlier : i < j) :
    Precedes (path ++ i :: left) (path ++ j :: right)

mutual

/-- The nodes of a tree in document order, each with its path. -/
def places : Tree α → List (List Nat × α)
  | node label children => ([], label) :: placesFrom 0 children

def placesFrom (i : Nat) : List (Tree α) → List (List Nat × α)
  | [] => []
  | tree :: rest => (places tree).map (fun place => (i :: place.1, place.2)) ++ placesFrom (i + 1) rest

end

private theorem lt_of_precedes {first second : List Nat} (precedes : Precedes first second) : first < second := by
  have after (path : List Nat) {left right : List Nat} (less : left < right) : path ++ left < path ++ right := by
    induction path with
    | nil => exact less
    | cons step path ih => exact List.cons_lt_cons_iff.mpr (.inr ⟨rfl, ih⟩)
  cases precedes with
  | ancestor _ i below =>
    have less := after first (List.nil_lt_cons i below)
    rwa [List.append_nil] at less
  | sibling path left right earlier => exact after path (List.cons_lt_cons_iff.mpr (.inl earlier))

mutual

theorem labels_places (tree : Tree α) : (places tree).map (·.2) = tree.preorder := by
  cases tree with
  | node label children => rw [places, preorder, List.map_cons, labels_placesFrom 0 children]

private theorem labels_placesFrom (i : Nat) (forest : List (Tree α)) :
    (placesFrom i forest).map (·.2) = preorderAll forest := by
  cases forest with
  | nil => rfl
  | cons tree rest =>
    rw [placesFrom, preorderAll, List.map_append, List.map_map, labels_placesFrom (i + 1) rest, ← labels_places tree]
    rfl

end

mutual

theorem mem_places_iff (tree : Tree α) {path : List Nat} {found : α} :
    (path, found) ∈ places tree ↔ labelAt? tree path = some found := by
  cases tree with
  | node label children =>
    rw [places, List.mem_cons, mem_placesFrom_iff 0 children]
    cases path with
    | nil => simp [labelAt?, eq_comm]
    | cons i path => simp [labelAt?]

private theorem mem_placesFrom_iff (i : Nat) (forest : List (Tree α)) {path : List Nat} {found : α} :
    (path, found) ∈ placesFrom i forest ↔
      ∃ j below, path = (i + j) :: below ∧ (forest[j]?.bind (labelAt? · below)) = some found := by
  cases forest with
  | nil => simp [placesFrom]
  | cons tree rest =>
    rw [placesFrom, List.mem_append, mem_placesFrom_iff (i + 1) rest, List.mem_map]
    constructor
    · rintro (⟨⟨below, label⟩, member, same⟩ | ⟨j, below, rfl, there⟩)
      · obtain ⟨rfl, rfl⟩ := Prod.mk.inj same
        exact ⟨0, below, rfl, (mem_places_iff tree).mp member⟩
      · exact ⟨j + 1, below, by rw [Nat.add_right_comm, Nat.add_assoc], there⟩
    · rintro ⟨j | j, below, rfl, there⟩
      · exact .inl ⟨(below, found), (mem_places_iff tree).mpr there, rfl⟩
      · exact .inr ⟨j, below, by rw [Nat.add_right_comm, Nat.add_assoc], there⟩

end

mutual

theorem sorted_places (tree : Tree α) : ((places tree).map (·.1)).Pairwise (· < ·) := by
  cases tree with
  | node label children =>
    rw [places, List.map_cons, List.pairwise_cons]
    refine ⟨?_, sorted_placesFrom 0 children⟩
    intro path member
    obtain ⟨⟨path, found⟩, placed, rfl⟩ := List.mem_map.mp member
    obtain ⟨j, below, rfl, -⟩ := (mem_placesFrom_iff 0 children).mp placed
    exact List.nil_lt_cons ..

private theorem sorted_placesFrom (i : Nat) (forest : List (Tree α)) :
    ((placesFrom i forest).map (·.1)).Pairwise (· < ·) := by
  cases forest with
  | nil => exact .nil
  | cons tree rest =>
    rw [placesFrom, List.map_append, List.map_map, List.pairwise_append]
    refine ⟨?_, sorted_placesFrom (i + 1) rest, ?_⟩
    · have sorted := sorted_places tree
      rw [List.pairwise_map] at sorted ⊢
      exact sorted.imp fun less => List.cons_lt_cons_iff.mpr (.inr ⟨rfl, less⟩)
    · intro first here second there
      obtain ⟨place, -, rfl⟩ := List.mem_map.mp here
      obtain ⟨⟨path, found⟩, placed, rfl⟩ := List.mem_map.mp there
      obtain ⟨j, below, rfl, -⟩ := (mem_placesFrom_iff (i + 1) rest).mp placed
      exact List.cons_lt_cons_iff.mpr (.inl (by omega))

end

/-- A list of a tree's nodes with their paths that has each node once and none before a node that precedes it. -/
structure InDocumentOrder (tree : Tree α) (found : List (List Nat × α)) : Prop where
  each : ∀ path label, (path, label) ∈ found ↔ labelAt? tree path = some label
  once : (found.map (·.1)).Nodup
  order : ∀ first second, first ∈ found → second ∈ found → Precedes first.1 second.1 →
    [first, second].Sublist found

private theorem pair_sublist {items : List (List Nat × α)} {first second : List Nat × α}
    (sorted : (items.map (·.1)).Pairwise (· < ·)) (here : first ∈ items) (there : second ∈ items)
    (less : first.1 < second.1) : [first, second].Sublist items := by
  induction items with
  | nil => contradiction
  | cons item items ih =>
    rw [List.map_cons, List.pairwise_cons] at sorted
    obtain ⟨least, sorted⟩ := sorted
    rcases List.mem_cons.mp there with rfl | later
    · rcases List.mem_cons.mp here with rfl | behind
      · exact absurd less (List.lt_irrefl _)
      · exact absurd (least _ (List.mem_map_of_mem behind)) (List.lt_asymm less)
    · rcases List.mem_cons.mp here with rfl | behind
      · exact (List.singleton_sublist.mpr later).cons_cons first
      · exact (ih sorted behind later).cons item

theorem inDocumentOrder_places (tree : Tree α) : InDocumentOrder tree (places tree) := by
  have sorted := sorted_places tree
  constructor
  case each => exact fun path label => mem_places_iff tree
  case once =>
    apply sorted.imp
    rintro path other less rfl
    exact List.lt_irrefl _ less
  case order => exact fun first second here there precedes => pair_sublist sorted here there (lt_of_precedes precedes)

example : places (.node 'a' [.node 'b' [.node 'c' []], .node 'd' []]) =
    [([], 'a'), ([0], 'b'), ([0, 0], 'c'), ([1], 'd')] := by
  decide

/-- The loop that begins with a tree: it takes one turn for each node, and stops when no tree is left. -/
structure Runs (tree : Tree α) : Prop where
  goes : ∀ count < tree.size, (Loop.turn^[count] ⟨[tree], []⟩).pending ≠ [] ∧
    (Loop.turn^[count] ⟨[tree], []⟩).visited = tree.walk.take count
  stops : Loop.turn^[tree.size] ⟨[tree], []⟩ = ⟨[], tree.walk⟩

theorem runs (tree : Tree α) : Runs tree := by
  have all : sizeAll [tree] = tree.size := Nat.add_zero _
  have whole : (Loop.mk [tree] []).course = tree.walk := by
    simp [Loop.course, preorderAll, walk_eq_preorder]
  constructor
  case goes =>
    intro count few
    obtain ⟨course, visited, pending⟩ := @turns _ ⟨[tree], []⟩ count (all ▸ Nat.le_of_lt few)
    constructor
    · rw [Ne, ← sizeAll_eq_zero_iff]
      dsimp only at pending
      omega
    · rw [← whole, ← course, Loop.course, List.take_left' (by simpa using visited)]
  case stops =>
    obtain ⟨course, -, pending⟩ := @turns _ ⟨[tree], []⟩ tree.size (all ▸ Nat.le_refl _)
    have nothing := sizeAll_eq_zero_iff.mp (Nat.add_eq_right.mp (pending.trans all))
    rw [whole, Loop.course, nothing, List.reverse_nil, preorderAll, List.append_nil] at course
    exact Loop.ext nothing course

/-- The walk of a tree stops, and has then visited the nodes in document order; that of a forest goes on from tree to
tree. -/
theorem walk_goes_in_document_order (tree : Tree α) (forest : List (Tree α)) :
    Runs tree ∧ tree.walk = tree.label :: tree.children.flatMap walk ∧ tree.walk = tree.preorder ∧
      (∃ found, tree.walk = found.map (·.2) ∧ InDocumentOrder tree found) ∧
      walkAll forest = forest.flatMap preorder ∧ walkAll [tree] = tree.preorder := by
  have forests (forest : List (Tree α)) : walkAll forest = forest.flatMap preorder :=
    (walkAll_eq_preorderAll forest).trans (preorderAll_eq_flatMap forest)
  refine ⟨runs tree, ?_, walk_eq_preorder tree, ⟨places tree, ?_, inDocumentOrder_places tree⟩, forests forest, ?_⟩
  · obtain ⟨label, children⟩ := tree
    rw [walk_eq_preorder, preorder, ← walkAll_eq_preorderAll]
    rfl
  · rw [walk_eq_preorder, labels_places]
  · rw [forests, List.flatMap_singleton]

end TagLint.Proofs.TreeWalks
