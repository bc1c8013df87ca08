import TagLint.Proofs.DocumentOrder

/-! Branches of a forest in document order. What is read off a branch depends on its own labels alone, and in a forest
without repeated labels no later branch has the label of an earlier one: a walk comes to a branch while nothing in it has
been visited. -/

namespace TagLint.Proofs.Branches
open TagLint.Tree DocumentOrder

variable {α : Type u} {β : Type v} {γ : Type w}

mutual

theorem preorder_branched (tree : Tree α) : tree.branched.preorder = tree.branches := by
  cases tree with
  | node label children => rw [branched, preorder, branches, preorderAll_branchedAll]

theorem preorderAll_branchedAll (forest : List (Tree α)) : preorderAll (branchedAll forest) = branchesAll forest := by
  cases forest with
  | nil => rfl
  | cons tree rest => rw [branchedAll, preorderAll, branchesAll, preorder_branched, preorderAll_branchedAll]

end

theorem walkAll_branchedAll (forest : List (Tree α)) : walkAll (branchedAll forest) = branchesAll forest := by
  rw [walkAll_eq_preorderAll, preorderAll_branchedAll]

mutual

theorem label_branches (tree : Tree α) : tree.branches.map label = tree.preorder := by
  cases tree with
  | node label children =>
    rw [branches, List.map_cons, label_branchesAll, preorder]
    rfl

theorem label_branchesAll (forest : List (Tree α)) : (branchesAll forest).map label = preorderAll forest := by
  cases forest with
  | nil => rfl
  | cons tree rest => rw [branchesAll, List.map_append, label_branches, label_branchesAll, preorderAll]

end

theorem label_mem_preorder (tree : Tree α) : tree.label ∈ tree.preorder := by
  cases tree with
  | node label children => exact List.mem_cons_self

theorem children_subset_preorder (tree : Tree α) : preorderAll tree.children ⊆ tree.preorder := by
  cases tree with
  | node label children => exact List.subset_cons_self label _

mutual

theorem branches_subset {tree branch : Tree α} (member : branch ∈ tree.branches) :
    branch.preorder ⊆ tree.preorder := by
  cases tree with
  | node label children =>
    rw [branches] at member
    rcases List.mem_cons.mp member with rfl | below
    · exact List.Subset.refl _
    · exact List.subset_cons_of_subset label (branchesAll_subset below)

theorem branchesAll_subset {forest : List (Tree α)} {branch : Tree α} (member : branch ∈ branchesAll forest) :
    branch.preorder ⊆ preorderAll forest := by
  cases forest with
  | nil => contradiction
  | cons tree rest =>
    rw [branchesAll] at member
    rw [preorderAll]
    rcases List.mem_append.mp member with first | later
    · exact List.subset_append_of_subset_left _ (branches_subset first)
    · exact List.subset_append_of_subset_right _ (branchesAll_subset later)

end

/-- The label of the earlier branch does not occur in the later one. -/
def Apart (earlier later : Tree α) : Prop :=
  earlier.label ∉ later.preorder

mutual

theorem apart_branches {tree : Tree α} (distinct : tree.preorder.Nodup) : tree.branches.Pairwise Apart := by
  cases tree with
  | node label children =>
    obtain ⟨fresh, distinct⟩ := List.nodup_cons.mp distinct
    rw [branches, List.pairwise_cons]
    exact ⟨fun branch below found => fresh (branchesAll_subset below found), apart_branchesAll distinct⟩

/-- Without repeated labels every branch is still to come as a whole when the walk comes to its root. -/
theorem apart_branchesAll {forest : List (Tree α)} (distinct : (preorderAll forest).Nodup) :
    (branchesAll forest).Pairwise Apart := by
  cases forest with
  | nil => exact .nil
  | cons tree rest =>
    rw [preorderAll, List.nodup_append] at distinct
    obtain ⟨first, later, disjoint⟩ := distinct
    rw [branchesAll, List.pairwise_append]
    refine ⟨apart_branches first, apart_branchesAll later, ?_⟩
    intro one before other after found
    have here : one.label ∈ tree.preorder := branches_subset before (label_mem_preorder one)
    exact disjoint _ here _ (branchesAll_subset after found) rfl

end

mutual

theorem map_congr {f g : α → β} {tree : Tree α} (same : ∀ label ∈ tree.preorder, f label = g label) :
    tree.map f = tree.map g := by
  cases tree with
  | node label children =>
    rw [preorder, List.forall_mem_cons] at same
    rw [map, map, same.1, mapAll_congr same.2]

theorem mapAll_congr {f g : α → β} {forest : List (Tree α)} (same : ∀ label ∈ preorderAll forest, f label = g label) :
    mapAll f forest = mapAll g forest := by
  cases forest with
  | nil => rfl
  | cons tree rest =>
    rw [preorderAll, List.forall_mem_append] at same
    rw [mapAll, mapAll, map_congr same.1, mapAll_congr same.2]

end

mutual

theorem map_map (f : α → β) (g : β → γ) (tree : Tree α) : (tree.map f).map g = tree.map (g ∘ f) := by
  cases tree with
  | node label children =>
    rw [map, map, map, mapAll_mapAll]
    rfl

theorem mapAll_mapAll (f : α → β) (g : β → γ) (forest : List (Tree α)) :
    mapAll g (mapAll f forest) = mapAll (g ∘ f) forest := by
  cases forest with
  | nil => rfl
  | cons tree rest => rw [mapAll, mapAll, mapAll, map_map, mapAll_mapAll]

end

end TagLint.Proofs.Branches
