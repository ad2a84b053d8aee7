import Wireframe.Proofs.Traversal
import Mathlib.Data.List.Induction
import Mathlib.Data.List.Nodup
import Mathlib.Tactic.Common

/-!
# Naming trees by paths

Ids are made by joining segments with slashes. A tree is `Node.Named` by an id if its root has the id,
all nodes below go on from it, and no two nodes share one. Children that are named by different
segments have no id in common, because the segment after the parent's id can be read off an id
(`segmentAfter_of_extends`); so a tree is named as soon as its children are (`Node.named_of_children`).
-/

namespace Wireframe

/-! ### Segments -/

/-- Whether an id is another one or goes on from it behind a slash. -/
def Extends (id other : String) : Prop :=
  other = id ∨ (id ++ "/").toList <+: other.toList

instance (id other : String) : Decidable (Extends id other) :=
  inferInstanceAs (Decidable (_ ∨ _))

lemma Extends.refl (id : String) : Extends id id := .inl rfl

lemma extends_iff {id other : String} :
    Extends id other ↔ other.toList = id.toList ∨ id.toList ++ ['/'] <+: other.toList := by
  rw [Extends, String.toList_append, String.toList_inj]
  rfl

lemma Extends.isPrefix {id other : String} (h : Extends id other) : id.toList <+: other.toList := by
  rcases extends_iff.mp h with h | h
  · exact h ▸ List.prefix_refl _
  · exact (List.prefix_append _ _).trans h

lemma Extends.trans {first second third : String} (h : Extends first second)
    (h' : Extends second third) : Extends first third := by
  rcases h with rfl | h
  · exact h'
  · exact .inr (h.trans h'.isPrefix)

/-- Of two texts that a text goes on from, one goes on from the other. -/
lemma Extends.total {first second other : String} (h : Extends first other)
    (h' : Extends second other) : Extends first second ∨ Extends second first := by
  rcases h with rfl | hfirst
  · exact .inr h'
  rcases h' with rfl | hsecond
  · exact .inl (.inr hfirst)
  rw [String.toList_append] at hfirst hsecond
  rw [extends_iff, extends_iff]
  -- Both with their slashes start the text, so the shorter of the two starts the longer one.
  rcases List.prefix_or_prefix_of_prefix hfirst hsecond with h | h
  · rcases List.prefix_concat_iff.mp h with heq | hprefix
    · exact .inl (.inl (List.append_cancel_right heq).symm)
    · exact .inl (.inr hprefix)
  · rcases List.prefix_concat_iff.mp h with heq | hprefix
    · exact .inr (.inl (List.append_cancel_right heq).symm)
    · exact .inr (.inr hprefix)

lemma extends_append_iff {start id other : String} :
    Extends (start ++ id) (start ++ other) ↔ Extends id other := by
  simp only [extends_iff, String.toList_append, List.append_assoc, List.append_cancel_left_eq,
    List.prefix_append_right_inj]

/-- A text goes on with what begins with a slash. -/
lemma extends_append {rest : String} (h : ['/'] <+: rest.toList) (id : String) :
    Extends id (id ++ rest) := by
  rw [extends_iff, String.toList_append, List.prefix_append_right_inj]
  exact .inr h

/-- What goes on from a text begins as it does. -/
lemma Extends.head? {start id text : String} {c : Char} (h : Extends (start ++ id) text)
    (hstart : start.toList.head? = some c) : text.toList.head? = some c := by
  obtain ⟨rest, hrest⟩ := h.isPrefix
  rw [← hrest, String.toList_append, List.append_assoc, List.head?_append, hstart, Option.some_or]

lemma extends_join (id rest : String) : Extends id (id ++ "/" ++ rest) :=
  .inr (by simp)

lemma Extends.of_part {id part other : String} (h : Extends (id ++ "/" ++ part) other) :
    (id ++ "/").toList <+: other.toList := by
  refine List.IsPrefix.trans ?_ h.isPrefix
  simp

lemma Extends.of_join {id part other : String} (h : Extends (id ++ "/" ++ part) other) :
    Extends id other :=
  (extends_join id part).trans h

/-- An id does not go on from what is longer. -/
lemma ne_of_extends_part {id part other : String} (h : Extends (id ++ "/" ++ part) other) :
    other ≠ id := by
  rintro rfl
  have hlength := h.of_part.length_le
  simp only [String.toList_append, List.length_append] at hlength
  exact absurd hlength (by simp)

/-- What follows an id and a slash, up to the next slash. -/
def segmentAfter (id other : String) : List Char :=
  (other.toList.drop (id ++ "/").toList.length).takeWhile (· ≠ '/')

lemma takeWhile_segment {part : List Char} (h : '/' ∉ part) (rest : List Char)
    (hrest : rest = [] ∨ ∃ more, rest = '/' :: more) :
    (part ++ rest).takeWhile (· ≠ '/') = part := by
  have hall : ∀ c ∈ part, decide (c ≠ '/') = true := fun c hc => by
    simpa using ne_of_mem_of_not_mem hc h
  rw [List.takeWhile_append_of_pos hall]
  rcases hrest with rfl | ⟨more, rfl⟩ <;> simp

lemma segmentAfter_of_extends {id part other : String} (hpart : '/' ∉ part.toList)
    (h : Extends (id ++ "/" ++ part) other) : segmentAfter id other = part.toList := by
  rcases h with rfl | ⟨rest, hrest⟩
  · simpa [segmentAfter] using takeWhile_segment hpart [] (.inl rfl)
  · rw [segmentAfter, ← hrest]
    simpa using takeWhile_segment hpart ('/' :: rest) (.inr ⟨rest, rfl⟩)

/-- An id goes on from another one by one segment only. -/
lemma eq_of_extends {id part part' other : String} (hpart : '/' ∉ part.toList)
    (hpart' : '/' ∉ part'.toList) (h : Extends (id ++ "/" ++ part) other)
    (h' : Extends (id ++ "/" ++ part') other) : part = part' := by
  have hsame : part.toList = part'.toList := by
    rw [← segmentAfter_of_extends hpart h, segmentAfter_of_extends hpart' h']
  exact String.toList_injective hsame

/-- Segments that can name the children of one node. -/
structure Segments (parts : List String) : Prop where
  slashFree : ∀ part ∈ parts, '/' ∉ part.toList
  distinct : parts.Nodup

/-- The segments of children that are numbered from zero. -/
def indices (count : Nat) : List String :=
  (List.range count).map Nat.repr

lemma isDigit_of_mem_repr {n : Nat} {c : Char} (h : c ∈ (Nat.repr n).toList) :
    c.isDigit = true := by
  rw [Nat.toList_repr] at h
  exact Nat.isDigit_of_mem_toDigits (by omega) (by omega) h

lemma repr_injective : Function.Injective Nat.repr := by
  intro m n h
  have hdigits := congrArg (fun text => Nat.ofDigitChars 10 text.toList 0) h
  simpa using hdigits

/-- Whether some character of a segment is no digit, so that it is no number. -/
def isWord (part : String) : Bool :=
  part.toList.any (!·.isDigit)

lemma not_mem_indices {part : String} (h : isWord part = true) (count : Nat) :
    part ∉ indices count := by
  intro hmem
  obtain ⟨n, -, rfl⟩ := List.mem_map.mp hmem
  obtain ⟨c, hc, hdigit⟩ := List.any_eq_true.mp h
  simp [isDigit_of_mem_repr hc] at hdigit

/-- Numbers between words name children as the words alone do. -/
lemma segments_around {before after : List String} (h : Segments (before ++ after))
    (hwords : ∀ part ∈ before ++ after, isWord part = true) (count : Nat) :
    Segments (before ++ (indices count ++ after)) := by
  have hperm : (before ++ (indices count ++ after)).Perm (indices count ++ (before ++ after)) := by
    rw [← List.append_assoc, ← List.append_assoc]
    exact List.perm_append_comm.append_right after
  refine ⟨fun part hpart => ?_, hperm.nodup_iff.mpr (List.nodup_append.mpr ⟨?_, h.distinct, ?_⟩)⟩
  · rcases List.mem_append.mp (hperm.mem_iff.mp hpart) with hindex | hword
    · obtain ⟨n, -, rfl⟩ := List.mem_map.mp hindex
      intro hslash
      exact absurd (isDigit_of_mem_repr hslash) (by decide)
    · exact h.slashFree part hword
  · exact List.Nodup.map repr_injective List.nodup_range
  · rintro part hindex other hword rfl
    exact not_mem_indices (hwords part hword) count hindex

namespace Node

/-! ### Trees -/

/-- Whether a tree is named by an id: its root has the id, and the other ids go on from it and are all
different. -/
structure Named (id : String) (node : Node) : Prop where
  root : node.id = id
  within : ∀ n ∈ node.preorder, Extends id n.id
  distinct : (node.preorder.map Node.id).Nodup

/-- Whether nodes are named below an id by some of these segments, in this order. -/
inductive NamedIn (id : String) : List String → List Node → Prop where
  | nil : NamedIn id [] []
  | skip {part : String} {parts : List String} {nodes : List Node} (rest : NamedIn id parts nodes) :
      NamedIn id (part :: parts) nodes
  | cons {part : String} {parts : List String} {node : Node} {nodes : List Node}
      (head : node.Named (id ++ "/" ++ part)) (rest : NamedIn id parts nodes) :
      NamedIn id (part :: parts) (node :: nodes)

namespace NamedIn

variable {id part : String} {parts more : List String} {nodes others : List Node}

lemma append (h : NamedIn id parts nodes) (h' : NamedIn id more others) :
    NamedIn id (parts ++ more) (nodes ++ others) := by
  induction h with
  | nil => exact h'
  | skip _ ih => exact .skip ih
  | cons head _ ih => exact .cons head ih

lemma none (parts : List String) : NamedIn id parts [] := by
  induction parts with
  | nil => exact .nil
  | cons part parts ih => exact .skip ih

lemma single {node : Node} (h : node.Named (id ++ "/" ++ part)) : NamedIn id [part] [node] :=
  .cons h .nil

lemma toList {node? : Option Node} (h : ∀ node ∈ node?, node.Named (id ++ "/" ++ part)) :
    NamedIn id [part] node?.toList := by
  cases node? with
  | none => exact .skip .nil
  | some node => exact .single (h node rfl)

/-- Nodes that are numbered from zero. -/
lemma mapIdx {α : Type} {f : Nat → α → Node} (h : ∀ i a, (f i a).Named (id ++ "/" ++ Nat.repr i))
    (items : List α) : NamedIn id (indices items.length) (items.mapIdx f) := by
  induction items using List.reverseRecOn with
  | nil => exact .nil
  | append_singleton items item ih =>
    rw [List.mapIdx_concat, List.length_append, List.length_singleton, indices, List.range_succ,
      List.map_append]
    exact ih.append (.single (h items.length item))

/-- Each node is below the id and one of the segments. -/
lemma within (h : NamedIn id parts nodes) :
    ∀ n ∈ preorderAll nodes, ∃ part ∈ parts, Extends (id ++ "/" ++ part) n.id := by
  induction h with
  | nil => simp
  | skip _ ih =>
    intro n hn
    obtain ⟨part, hpart, hn⟩ := ih n hn
    exact ⟨part, List.mem_cons_of_mem _ hpart, hn⟩
  | cons head _ ih =>
    intro n hn
    rcases List.mem_append.mp hn with hn | hn
    · exact ⟨_, List.mem_cons_self, head.within n hn⟩
    · obtain ⟨part, hpart, hn⟩ := ih n hn
      exact ⟨part, List.mem_cons_of_mem _ hpart, hn⟩

/-- Segments tell the children's ids apart. -/
lemma distinct (h : NamedIn id parts nodes) (hparts : Segments parts) :
    ((preorderAll nodes).map Node.id).Nodup := by
  induction h with
  | nil => simp
  | skip _ ih =>
    exact ih ⟨fun part hpart => hparts.slashFree part (List.mem_cons_of_mem _ hpart),
      (List.nodup_cons.mp hparts.distinct).2⟩
  | @cons part parts node nodes head rest ih =>
    obtain ⟨hnotin, hdistinct⟩ := List.nodup_cons.mp hparts.distinct
    obtain ⟨hslash, hslashes⟩ := List.forall_mem_cons.mp hparts.slashFree
    rw [preorderAll_cons, List.map_append]
    refine List.nodup_append.mpr ⟨head.distinct, ih ⟨hslashes, hdistinct⟩, ?_⟩
    rintro i hi j hj rfl
    obtain ⟨n, hn, rfl⟩ := List.mem_map.mp hi
    obtain ⟨m, hm, hid⟩ := List.mem_map.mp hj
    obtain ⟨other, hother, hextends⟩ := rest.within m hm
    rw [hid] at hextends
    have hsame := eq_of_extends hslash (hslashes other hother) (head.within n hn) hextends
    exact hnotin (hsame ▸ hother)

end NamedIn

/-- A tree is named by its root's id if its children are named by segments. -/
theorem named_of_children {id : String} {node : Node} {parts : List String}
    (hparts : Segments parts) (hid : node.id = id) (h : NamedIn id parts node.children) :
    node.Named id := by
  refine ⟨hid, fun n hn => ?_, ?_⟩
  · rw [preorder_eq] at hn
    rcases List.mem_cons.mp hn with rfl | hn
    · exact .inl hid
    · obtain ⟨part, -, hextends⟩ := h.within n hn
      exact hextends.of_join
  · rw [preorder_eq, List.map_cons, List.nodup_cons]
    refine ⟨fun hmem => ?_, h.distinct hparts⟩
    obtain ⟨n, hn, hsame⟩ := List.mem_map.mp hmem
    obtain ⟨part, -, hextends⟩ := h.within n hn
    exact ne_of_extends_part hextends (hsame.trans hid)

lemma named_of_leaf {id : String} {node : Node} (hid : node.id = id) (h : node.children = []) :
    node.Named id :=
  @named_of_children id node [] ⟨by simp, by simp⟩ hid (h ▸ .nil)

/-- Leaves may be told apart by any texts, as nothing goes on from them. -/
lemma named_of_leaves {id : String} {node : Node} (hid : node.id = id)
    (hleaves : ∀ child ∈ node.children, child.children = [] ∧ ∃ rest, child.id = id ++ "/" ++ rest)
    (hdistinct : (node.children.map Node.id).Nodup) : node.Named id := by
  have hpreorder : node.preorder = node :: node.children := by
    rw [preorder_eq, preorderAll_of_leaves fun child hchild => (hleaves child hchild).1]
  refine ⟨hid, fun n hn => ?_, ?_⟩
  · rw [hpreorder] at hn
    rcases List.mem_cons.mp hn with rfl | hn
    · exact .inl hid
    · obtain ⟨rest, hrest⟩ := (hleaves n hn).2
      exact hrest ▸ extends_join id rest
  · rw [hpreorder, List.map_cons, List.nodup_cons]
    refine ⟨fun hmem => ?_, hdistinct⟩
    obtain ⟨child, hchild, hsame⟩ := List.mem_map.mp hmem
    obtain ⟨rest, hrest⟩ := (hleaves child hchild).2
    exact ne_of_extends_part (.inl hrest) (hsame.trans hid)

end Node

end Wireframe
