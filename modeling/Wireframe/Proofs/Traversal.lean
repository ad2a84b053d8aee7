import Wireframe.Node.Basic
import Mathlib.Tactic.Common

/-!
# Finding nodes

A search by id walks the tree in preorder and takes the first node with the id. Where the ids of a
tree are distinct, it finds exactly the node that is meant (`Node.find?_of_mem`).
-/

namespace Wireframe.Node

mutual
/-- What holds of a node as soon as it holds of its children holds of every node. -/
theorem induct {p : Node → Prop} (step : ∀ node, (∀ child ∈ node.children, p child) → p node)
    (node : Node) : p node := by
  match node with
  | ⟨id, widget, attributes, children, interaction, cell⟩ => exact step _ (inductAll step children)

theorem inductAll {p : Node → Prop} (step : ∀ node, (∀ child ∈ node.children, p child) → p node)
    (nodes : List Node) : ∀ node ∈ nodes, p node := by
  match nodes with
  | [] => simp
  | node :: nodes => exact List.forall_mem_cons.mpr ⟨induct step node, inductAll step nodes⟩
end

lemma preorder_eq (node : Node) : node.preorder = node :: preorderAll node.children := by
  cases node; rfl

@[simp] lemma preorderAll_nil : preorderAll [] = [] := rfl

@[simp] lemma preorderAll_cons (node : Node) (nodes : List Node) :
    preorderAll (node :: nodes) = node.preorder ++ preorderAll nodes := rfl

@[simp] lemma preorderAll_append (nodes others : List Node) :
    preorderAll (nodes ++ others) = preorderAll nodes ++ preorderAll others := by
  induction nodes with
  | nil => rfl
  | cons node nodes ih => simp [ih]

lemma preorderAll_eq_flatMap (nodes : List Node) : preorderAll nodes = nodes.flatMap preorder := by
  induction nodes with
  | nil => rfl
  | cons node nodes ih => rw [preorderAll_cons, List.flatMap_cons, ih]

lemma mem_preorder_self (node : Node) : node ∈ node.preorder := by
  simp [preorder_eq]

lemma mem_preorderAll {n : Node} {nodes : List Node} :
    n ∈ preorderAll nodes ↔ ∃ node ∈ nodes, n ∈ node.preorder := by
  induction nodes with
  | nil => simp
  | cons node nodes ih => simp [ih]

lemma mem_preorder {n node : Node} :
    n ∈ node.preorder ↔ n = node ∨ ∃ child ∈ node.children, n ∈ child.preorder := by
  rw [preorder_eq, List.mem_cons, mem_preorderAll]

lemma eq_of_mem_leaf {n node : Node} (h : node.children = []) (hn : n ∈ node.preorder) :
    n = node := by
  rw [preorder_eq, h] at hn
  exact List.mem_singleton.mp hn

mutual
/-- What is below a node is below whatever that node is below. -/
lemma mem_preorder_trans {n m : Node} (hn : n ∈ m.preorder) (node : Node)
    (hm : m ∈ node.preorder) : n ∈ node.preorder := by
  match node with
  | ⟨id, widget, attributes, children, interaction, cell⟩ =>
    rw [preorder] at hm ⊢
    rcases List.mem_cons.mp hm with rfl | hm
    · rwa [preorder] at hn
    · exact List.mem_cons_of_mem _ (mem_preorderAll_trans hn children hm)

lemma mem_preorderAll_trans {n m : Node} (hn : n ∈ m.preorder) (nodes : List Node)
    (hm : m ∈ preorderAll nodes) : n ∈ preorderAll nodes := by
  match nodes with
  | [] => cases hm
  | node :: nodes =>
    rw [preorderAll_cons] at hm ⊢
    rcases List.mem_append.mp hm with hm | hm
    · exact List.mem_append_left _ (mem_preorder_trans hn node hm)
    · exact List.mem_append_right _ (mem_preorderAll_trans hn nodes hm)
end

lemma preorderAll_of_leaves {nodes : List Node} (h : ∀ node ∈ nodes, node.children = []) :
    preorderAll nodes = nodes := by
  induction nodes with
  | nil => rfl
  | cons node nodes ih =>
    obtain ⟨hnode, hnodes⟩ := List.forall_mem_cons.mp h
    simp [preorder_eq, hnode, ih hnodes]

mutual
/-- The search finds the first node of the preorder that has the id. -/
theorem find?_eq (id : String) (node : Node) :
    node.find? id = node.preorder.find? (·.id = id) := by
  match node with
  | ⟨i, widget, attributes, children, interaction, cell⟩ =>
    simp only [find?, preorder, List.find?_cons]
    by_cases h : i = id
    · simp [h]
    · simp [h, findAmong?_eq id children]

theorem findAmong?_eq (id : String) (nodes : List Node) :
    findAmong? id nodes = (preorderAll nodes).find? (·.id = id) := by
  match nodes with
  | [] => rfl
  | node :: nodes =>
    simp only [findAmong?, preorderAll, List.find?_append, find?_eq id node,
      findAmong?_eq id nodes]
end

lemma find?_self (node : Node) : node.find? node.id = some node := by
  rw [find?_eq, preorder_eq, List.find?_cons_of_pos (by simp)]

lemma mem_of_find? {id : String} {node n : Node} (h : node.find? id = some n) :
    n ∈ node.preorder :=
  List.mem_of_find?_eq_some (find?_eq id node ▸ h)

lemma id_of_find? {id : String} {node n : Node} (h : node.find? id = some n) : n.id = id := by
  rw [find?_eq] at h
  have hfound := List.find?_some h
  exact of_decide_eq_true hfound

/-- Where ids are distinct, the search for a node's id finds that node. -/
theorem find?_of_mem {node n : Node} (h : (node.preorder.map Node.id).Nodup)
    (hn : n ∈ node.preorder) : node.find? n.id = some n := by
  rw [find?_eq]
  generalize node.preorder = nodes at h hn
  induction nodes with
  | nil => cases hn
  | cons first rest ih =>
    obtain ⟨hnotin, hrest⟩ := List.nodup_cons.mp h
    rcases List.mem_cons.mp hn with rfl | hmem
    · simp
    · have hne : first.id ≠ n.id := fun heq => hnotin (heq ▸ List.mem_map_of_mem hmem)
      rw [List.find?_cons_of_neg (by simpa using hne)]
      exact ih hrest hmem

end Wireframe.Node
