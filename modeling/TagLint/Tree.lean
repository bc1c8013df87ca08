/-!
Documents as trees. A walk keeps the trees it has still to visit on a stack, and visits a node before its children and
these from left to right.
-/

namespace TagLint

inductive Tree (α : Type u)
  | node (label : α) (children : List (Tree α))

namespace Tree

variable {α : Type u} {β : Type v}

def label : Tree α → α
  | node label _ => label

def children : Tree α → List (Tree α)
  | node _ children => children

mutual

def map (f : α → β) : Tree α → Tree β
  | node label children => node (f label) (mapAll f children)

def mapAll (f : α → β) : List (Tree α) → List (Tree β)
  | [] => []
  | tree :: rest => tree.map f :: mapAll f rest

end

mutual

/-- The tree of the branches of a tree: each node's label is the whole branch that begins there. -/
def branched : Tree α → Tree (Tree α)
  | node label children => node (node label children) (branchedAll children)

def branchedAll : List (Tree α) → List (Tree (Tree α))
  | [] => []
  | tree :: rest => tree.branched :: branchedAll rest

end

mutual

def size : Tree α → Nat
  | node _ children => sizeAll children + 1

def sizeAll : List (Tree α) → Nat
  | [] => 0
  | tree :: rest => tree.size + sizeAll rest

end

theorem sizeAll_append (first second : List (Tree α)) : sizeAll (first ++ second) = sizeAll first + sizeAll second := by
  induction first with
  | nil => simp [sizeAll]
  | cons tree rest ih => simp [sizeAll, ih, Nat.add_assoc]

/-- Visits the trees on a stack, the topmost first; the children of a visited node go on top of the others. -/
def walkStack : List (Tree α) → List α
  | [] => []
  | node label children :: stack => label :: walkStack (children ++ stack)
termination_by stack => sizeAll stack
decreasing_by simp only [sizeAll_append, sizeAll, size]; omega

def walk (tree : Tree α) : List α :=
  walkStack [tree]

mutual

/-- The labels of a tree in document order: the node, then its children's trees from left to right. -/
def preorder : Tree α → List α
  | node label children => label :: preorderAll children

def preorderAll : List (Tree α) → List α
  | [] => []
  | tree :: rest => tree.preorder ++ preorderAll rest

end

mutual

/-- The branches of a tree in document order: the tree itself, then its children's branches from left to right. -/
def branches : Tree α → List (Tree α)
  | node label children => node label children :: branchesAll children

def branchesAll : List (Tree α) → List (Tree α)
  | [] => []
  | tree :: rest => tree.branches ++ branchesAll rest

end

def walkAll (forest : List (Tree α)) : List α :=
  forest.flatMap walk

/-- The tree below item `i` of `n` items, where `parent?` gives the item that each hangs under. An item stands after
its parent, and the children of one parent are in the order of the items. -/
def ofParents {n : Nat} (parent? : Fin n → Option (Fin n)) (i : Fin n) : Tree (Fin n) :=
  let below := (List.finRange n).filter fun j => i < j && parent? j == some i
  node i (below.attach.map fun ⟨j, _⟩ => ofParents parent? j)
termination_by n - i
decreasing_by
  rename_i member
  simp only [below, List.mem_filter, Bool.and_eq_true, decide_eq_true_eq] at member
  have : i.val < j.val := member.2.1
  omega

/-- The trees of items that hang under no other, in the order of the items. -/
def forestOfParents {n : Nat} (parent? : Fin n → Option (Fin n)) : List (Tree (Fin n)) :=
  ((List.finRange n).filter fun i => (parent? i).isNone).map (ofParents parent?)

end Tree

end TagLint
