import Wireframe.Proofs.Traversal
import Mathlib.Data.List.Basic

/-!
# Visits with a stack

Every node of a tree has a position: the indices of the children that lead to it. In preorder the
positions come in lexicographic order, so a node comes before all that is below it, and this before
whatever is to its right. A traversal that takes nodes from a stack, and pushes the children of each of
them from the last to the first, meets the nodes in this order (`Node.descendants_eq_preorder`).
-/

namespace Wireframe.Node

/-! ### Positions -/

/-- The node at a position. -/
def atPosition? (tree : Node) : List Nat → Option Node
  | [] => some tree
  | index :: position => tree.children[index]?.bind (atPosition? · position)

mutual
/-- The nodes of a tree with their positions, parents before their children. -/
def visits : Node → List (List Nat × Node)
  | ⟨id, widget, attributes, children, interaction, cell⟩ =>
    ([], ⟨id, widget, attributes, children, interaction, cell⟩) :: visitsFrom 0 children

/-- The nodes of trees that are children from an index on. -/
def visitsFrom (first : Nat) : List Node → List (List Nat × Node)
  | [] => []
  | node :: nodes =>
    (visits node).map (fun visit => (first :: visit.1, visit.2)) ++ visitsFrom (first + 1) nodes
end

lemma visits_eq (tree : Node) : tree.visits = ([], tree) :: visitsFrom 0 tree.children := by
  cases tree; rfl

mutual
lemma map_snd_visits (tree : Node) : tree.visits.map Prod.snd = tree.preorder := by
  match tree with
  | ⟨id, widget, attributes, children, interaction, cell⟩ =>
    rw [visits, preorder, List.map_cons, map_snd_visitsFrom 0 children]

lemma map_snd_visitsFrom (first : Nat) (nodes : List Node) :
    (visitsFrom first nodes).map Prod.snd = preorderAll nodes := by
  match nodes with
  | [] => rfl
  | node :: nodes =>
    rw [visitsFrom, preorderAll, List.map_append, List.map_map, Function.comp_def,
      map_snd_visits node, map_snd_visitsFrom (first + 1) nodes]
end

lemma mem_visitsFrom {first : Nat} {nodes : List Node} {position : List Nat} {n : Node} :
    (position, n) ∈ visitsFrom first nodes ↔ ∃ index node below, nodes[index]? = some node
      ∧ (below, n) ∈ node.visits ∧ position = (first + index) :: below := by
  induction nodes generalizing first with
  | nil => simp [visitsFrom]
  | cons node nodes ih =>
    have hleft : (position, n) ∈ node.visits.map (fun visit => (first :: visit.1, visit.2))
        ↔ ∃ below, (below, n) ∈ node.visits ∧ position = first :: below := by
      simp [eq_comm]
    rw [visitsFrom, List.mem_append, hleft, ih]
    constructor
    · rintro (⟨below, hbelow, rfl⟩ | ⟨index, other, below, hother, hbelow, rfl⟩)
      · exact ⟨0, node, below, rfl, hbelow, rfl⟩
      · exact ⟨index + 1, other, below, hother, hbelow, by rw [Nat.add_assoc, Nat.add_comm 1]⟩
    · rintro ⟨_ | index, other, below, hother, hbelow, rfl⟩
      · cases hother
        exact .inl ⟨below, hbelow, rfl⟩
      · exact .inr ⟨index, other, below, hother, hbelow, by rw [Nat.add_assoc, Nat.add_comm 1]⟩

/-- A node is listed with each position that leads to it, and with no other one. -/
lemma mem_visits {tree : Node} {position : List Nat} {n : Node} :
    (position, n) ∈ tree.visits ↔ tree.atPosition? position = some n := by
  induction position generalizing tree with
  | nil =>
    rw [visits_eq, List.mem_cons, atPosition?, mem_visitsFrom]
    simp [eq_comm]
  | cons first below ih =>
    rw [visits_eq, List.mem_cons, atPosition?, mem_visitsFrom, Option.bind_eq_some_iff]
    simp [ih]

mutual
lemma pairwise_visits (tree : Node) : tree.visits.Pairwise (·.1 < ·.1) := by
  match tree with
  | ⟨_, _, _, children, _, _⟩ =>
    rw [visits]
    refine List.pairwise_cons.mpr ⟨fun ⟨position, n⟩ hmem => ?_, pairwise_visitsFrom 0 children⟩
    obtain ⟨_, _, _, -, -, rfl⟩ := mem_visitsFrom.mp hmem
    exact List.nil_lt_cons _ _

lemma pairwise_visitsFrom (first : Nat) (nodes : List Node) :
    (visitsFrom first nodes).Pairwise (·.1 < ·.1) := by
  match nodes with
  | [] => exact .nil
  | node :: nodes =>
    rw [visitsFrom, List.pairwise_append, List.pairwise_map]
    refine ⟨(pairwise_visits node).imp List.cons_lt_cons_self.mpr,
      pairwise_visitsFrom (first + 1) nodes, ?_⟩
    -- The first index of a position tells which child it is in.
    rintro visit hvisit ⟨_, n⟩ hlater
    obtain ⟨⟨below, _⟩, -, rfl⟩ := List.mem_map.mp hvisit
    obtain ⟨index, _, _, -, -, rfl⟩ := mem_visitsFrom.mp hlater
    exact List.cons_lt_cons_iff.mpr (.inl (by omega))
end

/-! ### The stack -/

lemma walk_eq_preorderAll (stack : List Node) : walk stack = preorderAll stack := by
  induction stack using walk.induct with
  | case1 => rw [walk, preorderAll_nil]
  | case2 node stack ih =>
    rw [walk, ih, preorderAll_append, preorderAll_cons, preorder_eq, List.cons_append]

/-- One step of a traversal whose stack grows at its end: the last node is taken, and its children are
pushed from the last to the first. -/
def next? (stack : List Node) : Option (Node × List Node) :=
  stack.getLast?.map fun node => (node, stack.dropLast ++ node.children.reverse)

/-- What a traversal yields, step by step, until its stack is empty. -/
inductive Yields : List Node → List Node → Prop
  | done {stack : List Node} (h : next? stack = none) : Yields stack []
  | next {stack rest nodes : List Node} {node : Node} (h : next? stack = some (node, rest))
      (hrest : Yields rest nodes) : Yields stack (node :: nodes)

@[simp] lemma next?_concat (stack : List Node) (node : Node) :
    next? (stack ++ [node]) = some (node, stack ++ node.children.reverse) := by
  simp [next?]

/-- A traversal comes to an end, and yields what visiting the stack from its end yields. -/
lemma yields_iff {stack nodes : List Node} : Yields stack nodes ↔ nodes = walk stack.reverse := by
  constructor
  · intro h
    induction h with
    | @done stack h =>
      obtain rfl : stack = [] := by simpa [next?] using h
      rw [List.reverse_nil, walk]
    | @next stack rest nodes node h _ ih =>
      rcases List.eq_nil_or_concat stack with rfl | ⟨stack, top, rfl⟩
      · cases h
      · rw [List.concat_eq_append, next?_concat] at h
        cases h
        rw [ih, List.concat_eq_append, List.reverse_concat, walk, List.reverse_append,
          List.reverse_reverse]
  · rintro rfl
    generalize hstack : stack.reverse = visited
    induction visited using walk.induct generalizing stack with
    | case1 =>
      obtain rfl := List.reverse_eq_nil_iff.mp hstack
      rw [walk]
      exact .done rfl
    | case2 node visited ih =>
      obtain rfl : stack = visited.reverse ++ [node] := by
        rw [← List.reverse_cons, ← hstack, List.reverse_reverse]
      rw [walk]
      exact .next (next?_concat _ _) (ih (by simp))

/-! ### Agreement -/

/-- The search finds a node just where it is the first one in preorder that has the id. -/
lemma find?_eq_some_iff_first {id : String} {tree n : Node} :
    tree.find? id = some n ↔ n.id = id ∧ ∃ before after, tree.preorder = before ++ n :: after
      ∧ ∀ other ∈ before, other.id ≠ id := by
  rw [find?_eq, List.find?_eq_some_iff_append]
  simp

lemma find?_eq_none_iff {id : String} {tree : Node} :
    tree.find? id = none ↔ ∀ n ∈ tree.preorder, n.id ≠ id := by
  rw [find?_eq, List.find?_eq_none]
  simp

/-- The descendants of a node are visited in preorder, step by step with a stack that starts with the
node: each position of the tree once, in lexicographic order. A search by id finds the first of them
that has the id, if one has it, and what is counted is how many of them satisfy a condition. -/
theorem descendants_eq_preorder (tree : Node) :
    tree.descendants = tree.preorder
      ∧ (∀ nodes, Yields [tree] nodes ↔ nodes = tree.preorder)
      ∧ (∃ visits : List (List Nat × Node), visits.map Prod.snd = tree.preorder
        ∧ visits.Pairwise (·.1 < ·.1)
        ∧ ∀ position n, (position, n) ∈ visits ↔ tree.atPosition? position = some n)
      ∧ (∀ id n, tree.find? id = some n ↔ n.id = id ∧ ∃ before after,
        tree.preorder = before ++ n :: after ∧ ∀ other ∈ before, other.id ≠ id)
      ∧ (∀ id, tree.find? id = none ↔ ∀ n ∈ tree.preorder, n.id ≠ id)
      ∧ ∀ p, tree.count p = (tree.preorder.filter p).length := by
  have hwalk : walk [tree] = tree.preorder := by
    rw [walk_eq_preorderAll, preorderAll_cons, preorderAll_nil, List.append_nil]
  refine ⟨hwalk, fun nodes => ?_,
    ⟨tree.visits, map_snd_visits tree, pairwise_visits tree, fun _ _ => mem_visits⟩,
    fun _ _ => find?_eq_some_iff_first, fun _ => find?_eq_none_iff, fun p => ?_⟩
  · rw [yields_iff, List.reverse_singleton, hwalk]
  · rw [count, descendants, hwalk, List.countP_eq_length_filter]

end Wireframe.Node
