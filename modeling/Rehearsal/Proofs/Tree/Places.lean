import Rehearsal.Tree

/-!
# Places in a case tree

A place is the way from the root to a position: the number of the child in each group, and zero
under a label. A walk that goes down first and then from left to right meets the places in the order
of lists of numbers. The leaves of a tree are its cases and its strays, listed as that walk meets
them: they are all that stands at the places of a case or a stray, and their places ascend.
-/

namespace Rehearsal

namespace Tree

variable {α : Type}

abbrev Place := List Nat

/-- What stands at a place, and the labels around it. -/
def at? : Tree α → Place → Option (List Value × Tree α)
  | tree, [] => some ([], tree)
  | group children, number :: place => children[number]?.bind fun child => child.at? place
  | label name child, 0 :: place =>
    (child.at? place).map fun (labels, node) => (name :: labels, node)
  | _, _ :: _ => none

theorem at?_label {name : Value} {child node : Tree α} {place : Place} {labels : List Value}
    (h : child.at? place = some (labels, node)) :
    (label name child).at? (0 :: place) = some (name :: labels, node) := by
  rw [at?, h]
  rfl

theorem at?_group {children : List (Tree α)} {child : Tree α} {number : Nat} {place : Place}
    (h : children[number]? = some child) :
    (group children).at? (number :: place) = child.at? place := by
  rw [at?, h]
  rfl

/-- A tree without a tree below: a case, or a stray of a kind. -/
def ofContent : Except String α → Tree α
  | .ok payload => case payload
  | .error found => stray found

/-- A case or a stray, with its place and the labels around it. -/
structure Leaf (α : Type) where
  place : Place
  labels : List Value
  content : Except String α

namespace Leaf

/-- A leaf of the child with that number in a group. -/
def inChild (number : Nat) (leaf : Leaf α) : Leaf α := { leaf with place := number :: leaf.place }

/-- A leaf of the tree under a label. -/
def under (name : Value) (leaf : Leaf α) : Leaf α :=
  { leaf with place := 0 :: leaf.place, labels := name :: leaf.labels }

end Leaf

mutual

/-- The leaves from left to right. -/
def leaves : Tree α → List (Leaf α)
  | case payload => [⟨[], [], .ok payload⟩]
  | group children => leavesFrom 0 children
  | label name child => child.leaves.map (Leaf.under name)
  | stray found => [⟨[], [], .error found⟩]

/-- The leaves of children that are numbered from `start` on. -/
def leavesFrom (start : Nat) : List (Tree α) → List (Leaf α)
  | [] => []
  | child :: rest => child.leaves.map (Leaf.inChild start) ++ leavesFrom (start + 1) rest

end

/-! ## What stands at a place -/

theorem mem_leavesFrom {start : Nat} {trees : List (Tree α)} {leaf : Leaf α} :
    leaf ∈ leavesFrom start trees ↔ ∃ (number : Nat) (child : Tree α),
      trees[number]? = some child ∧
        ∃ inner ∈ child.leaves, Leaf.inChild (start + number) inner = leaf := by
  induction trees generalizing start with
  | nil => simp [leavesFrom]
  | cons child rest ih =>
    rw [leavesFrom, List.mem_append, List.mem_map, ih]
    constructor
    · rintro (first | ⟨number, other, member, inner⟩)
      · exact ⟨0, child, rfl, first⟩
      · rw [Nat.add_right_comm, Nat.add_assoc] at inner
        exact ⟨number + 1, other, member, inner⟩
    · rintro ⟨number, other, member, inner⟩
      cases number with
      | zero =>
        cases member
        exact Or.inl inner
      | succ number =>
        rw [← Nat.add_assoc, Nat.add_right_comm] at inner
        exact Or.inr ⟨number, other, member, inner⟩

/-- The leaves are what stands at the places of a case or a stray. The induction is on the place,
along which the tree is gone down. -/
theorem mem_leaves_iff {content : Except String α} {place : Place} {tree : Tree α}
    {labels : List Value} :
    ⟨place, labels, content⟩ ∈ tree.leaves ↔ tree.at? place = some (labels, ofContent content) := by
  induction place generalizing tree labels with
  | nil =>
    cases tree with
    | case payload => cases content <;> simp [leaves, at?, ofContent, eq_comm]
    | stray found => cases content <;> simp [leaves, at?, ofContent, eq_comm]
    | group children =>
      rw [leaves, mem_leavesFrom]
      cases content <;> simp [at?, ofContent, Leaf.inChild]
    | label name child => cases content <;> simp [leaves, at?, ofContent, Leaf.under]
  | cons number place ih =>
    cases tree with
    | case payload => simp [leaves, at?]
    | stray found => simp [leaves, at?]
    | group children =>
      rw [leaves, mem_leavesFrom, at?, Option.bind_eq_some_iff]
      constructor
      · rintro ⟨number, child, member, ⟨inner, labels, content⟩, h, same⟩
        cases same
        rw [Nat.zero_add]
        exact ⟨child, member, ih.mp h⟩
      · rintro ⟨child, member, below⟩
        refine ⟨number, child, member, ⟨place, labels, content⟩, ih.mpr below, ?_⟩
        rw [Leaf.inChild, Nat.zero_add]
    | label name child =>
      rw [leaves, List.mem_map]
      constructor
      · rintro ⟨⟨inner, labels, content⟩, h, same⟩
        cases same
        rw [at?, ih.mp h]
        rfl
      · intro h
        cases number with
        | zero =>
          rw [at?, Option.map_eq_some_iff] at h
          obtain ⟨⟨inner, node⟩, below, same⟩ := h
          cases same
          exact ⟨⟨place, inner, content⟩, ih.mpr below, rfl⟩
        | succ number => cases h

theorem mem_leaves_case {tree : Tree α} {place : Place} {labels : List Value} {payload : α} :
    ⟨place, labels, .ok payload⟩ ∈ tree.leaves ↔
      tree.at? place = some (labels, case payload) :=
  mem_leaves_iff

theorem mem_leaves_stray {tree : Tree α} {place : Place} {labels : List Value} {found : String} :
    ⟨place, labels, .error found⟩ ∈ tree.leaves ↔
      tree.at? place = some (labels, stray found) :=
  mem_leaves_iff

/-! ## The order of the leaves -/

namespace Leaf

def Before (a b : Leaf α) : Prop := a.place < b.place

variable {a b : Leaf α}

theorem Before.inChild {number : Nat} (h : a.Before b) :
    (a.inChild number).Before (b.inChild number) :=
  List.cons_lt_cons_self.mpr h

theorem Before.under {name : Value} (h : a.Before b) : (a.under name).Before (b.under name) :=
  List.cons_lt_cons_self.mpr h

theorem before_of_lt {m n : Nat} (h : m < n) : (a.inChild m).Before (b.inChild n) :=
  List.cons_lt_cons_iff.mpr (Or.inl h)

end Leaf

mutual

/-- The places of the leaves ascend, so that no place is listed twice. -/
theorem leaves_ascend : ∀ tree : Tree α, tree.leaves.Pairwise Leaf.Before
  | case _ | stray _ => List.pairwise_singleton _ _
  | group children => leavesFrom_ascend 0 children
  | label _ child => List.pairwise_map.mpr ((leaves_ascend child).imp Leaf.Before.under)

theorem leavesFrom_ascend (start : Nat) :
    ∀ trees : List (Tree α), (leavesFrom start trees).Pairwise Leaf.Before
  | [] => List.Pairwise.nil
  | child :: rest => by
    rw [leavesFrom, List.pairwise_append]
    refine ⟨?_, leavesFrom_ascend (start + 1) rest, ?_⟩
    · exact List.pairwise_map.mpr ((leaves_ascend child).imp Leaf.Before.inChild)
    · intro a ha b hb
      obtain ⟨inner, _, rfl⟩ := List.mem_map.mp ha
      obtain ⟨number, _, _, other, _, rfl⟩ := mem_leavesFrom.mp hb
      exact Leaf.before_of_lt (by omega)

end

end Tree

end Rehearsal
