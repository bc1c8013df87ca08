import TagLint.Tree

/-! The walk with a stack visits the nodes of a forest in document order. -/

namespace TagLint.Proofs.DocumentOrder
open TagLint.Tree

variable {α : Type u}

theorem preorderAll_append (first second : List (Tree α)) :
    preorderAll (first ++ second) = preorderAll first ++ preorderAll second := by
  induction first with
  | nil => rfl
  | cons tree rest ih => rw [List.cons_append, preorderAll, preorderAll, ih, List.append_assoc]

/-- The stack holds the trees whose nodes are still to come. -/
theorem walkStack_eq_preorderAll (stack : List (Tree α)) : walkStack stack = preorderAll stack := by
  fun_induction walkStack stack with
  | case1 => rfl
  | case2 label children stack ih =>
    rw [ih, preorderAll_append]
    rfl

theorem walk_eq_preorder (tree : Tree α) : tree.walk = tree.preorder := by
  rw [walk, walkStack_eq_preorderAll, preorderAll, preorderAll, List.append_nil]

theorem preorderAll_eq_flatMap (forest : List (Tree α)) : preorderAll forest = forest.flatMap preorder := by
  induction forest with
  | nil => rfl
  | cons tree rest ih => rw [preorderAll, List.flatMap_cons, ih]

theorem walkAll_eq_preorderAll (forest : List (Tree α)) : walkAll forest = preorderAll forest := by
  rw [walkAll, preorderAll_eq_flatMap, funext walk_eq_preorder]

end TagLint.Proofs.DocumentOrder
