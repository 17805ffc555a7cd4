import Rehearsal.Proofs.Tree.Flat
import Rehearsal.Proofs.Tree.Places

/-!
# Malformed trees

Where a tree should be, there may be a stray value. Building the computation of such a tree and
visiting its cases come to the same error, which names the kind of the first stray from left to
right. The computation is refused before anything runs; the visit has met exactly the cases before
the stray. A tree without strays is built, and a visit meets each of its cases once.
-/

namespace Rehearsal

namespace Tree

/-! ## Visits of leaves -/

section Visits

variable {α : Type}

namespace Leaf

def IsCase (leaf : Leaf α) : Prop := ∃ payload, leaf.content = .ok payload

/-- The place, the labels and the payload of a case. -/
def case? (leaf : Leaf α) : Option (Place × List Value × α) :=
  match leaf.content with
  | .ok payload => some (leaf.place, leaf.labels, payload)
  | .error _ => none

theorem case?_eq_some {leaf : Leaf α} {place : Place} {labels : List Value} {payload : α} :
    leaf.case? = some (place, labels, payload) ↔ leaf = ⟨place, labels, .ok payload⟩ := by
  obtain ⟨p, ls, content⟩ := leaf
  cases content <;> simp [case?]

end Leaf

/-- A case as a visit meets it, with the labels behind a context. -/
def inContext (context : List Value) (placed : Place × List Value × α) : List Value × α :=
  (context ++ placed.2.1, placed.2.2)

/-- The cases among some leaves, as a visit meets them. -/
def casesAmong (context : List Value) (leaves : List (Leaf α)) : List (List Value × α) :=
  (leaves.filterMap Leaf.case?).map (inContext context)

/-- A visit of leaves one after the other ends at the first stray. -/
def visitLeaves (context : List Value) : List (Leaf α) → Visit α
  | [] => ⟨[], none⟩
  | ⟨_, labels, .ok payload⟩ :: rest =>
    let later := visitLeaves context rest
    ⟨(context ++ labels, payload) :: later.cases, later.stray⟩
  | ⟨_, _, .error found⟩ :: _ => ⟨[], some found⟩

theorem visitLeaves_append (context : List Value) (first later : List (Leaf α)) :
    visitLeaves context (first ++ later) =
      match (visitLeaves context first).stray with
      | some found => ⟨(visitLeaves context first).cases, some found⟩
      | none => ⟨(visitLeaves context first).cases ++ (visitLeaves context later).cases,
          (visitLeaves context later).stray⟩ := by
  induction first with
  | nil => rfl
  | cons leaf rest ih =>
    obtain ⟨place, labels, content⟩ := leaf
    cases content with
    | error found => rfl
    | ok payload =>
      simp only [List.cons_append, visitLeaves, ih]
      cases (visitLeaves context rest).stray <;> rfl

/-- A visit looks at the labels and the contents of leaves, not at their places. -/
theorem visitLeaves_map {outer inner : List Value} (move : Leaf α → Leaf α)
    (labels : ∀ leaf, outer ++ (move leaf).labels = inner ++ leaf.labels)
    (content : ∀ leaf, (move leaf).content = leaf.content) (leaves : List (Leaf α)) :
    visitLeaves outer (leaves.map move) = visitLeaves inner leaves := by
  induction leaves with
  | nil => rfl
  | cons leaf rest ih =>
    have named := labels leaf
    have shown := content leaf
    rw [List.map_cons]
    generalize move leaf = moved at named shown ⊢
    obtain ⟨_, _, found⟩ := moved
    obtain ⟨_, _, _⟩ := leaf
    cases shown
    cases found with
    | error kind => rfl
    | ok payload => simp only [visitLeaves, ih, named]

theorem visitLeaves_inChild (context : List Value) (number : Nat) (leaves : List (Leaf α)) :
    visitLeaves context (leaves.map (Leaf.inChild number)) = visitLeaves context leaves :=
  visitLeaves_map (Leaf.inChild number) (fun _ => rfl) (fun _ => rfl) leaves

theorem visitLeaves_under (context : List Value) (name : Value) (leaves : List (Leaf α)) :
    visitLeaves context (leaves.map (Leaf.under name)) =
      visitLeaves (context ++ [name]) leaves :=
  visitLeaves_map (Leaf.under name)
    (fun leaf => (List.append_assoc context [name] leaf.labels).symm) (fun _ => rfl) leaves

mutual

/-- A visit of a tree is a visit of its leaves. -/
theorem visit_leaves :
    ∀ (tree : Tree α) (context : List Value),
      tree.visit context = visitLeaves context tree.leaves
  | case payload, context => by simp only [visit, leaves, visitLeaves, List.append_nil]
  | stray _, _ => rfl
  | label name child, context => by
    rw [visit, visit_leaves child, leaves, visitLeaves_under]
  | group children, context => visitAll_leaves 0 children context

theorem visitAll_leaves (start : Nat) :
    ∀ (trees : List (Tree α)) (context : List Value),
      visitAll context trees = visitLeaves context (leavesFrom start trees)
  | [], _ => rfl
  | child :: rest, context => by
    have parts := visitLeaves_append context (child.leaves.map (Leaf.inChild start))
      (leavesFrom (start + 1) rest)
    rw [visitLeaves_inChild] at parts
    rw [visitAll, visit_leaves child, visitAll_leaves (start + 1) rest, leavesFrom]
    exact parts.symm

end

/-- Either all leaves are cases and are met, or those before the first stray are. -/
theorem visitLeaves_cases (context : List Value) (leaves : List (Leaf α)) :
    ((∀ leaf ∈ leaves, leaf.IsCase) ∧
      visitLeaves context leaves = ⟨casesAmong context leaves, none⟩) ∨
    ∃ before place labels found after, leaves = before ++ ⟨place, labels, .error found⟩ :: after ∧
      (∀ leaf ∈ before, leaf.IsCase) ∧
      visitLeaves context leaves = ⟨casesAmong context before, some found⟩ := by
  induction leaves with
  | nil => exact Or.inl ⟨nofun, rfl⟩
  | cons leaf rest ih =>
    obtain ⟨place, labels, content⟩ := leaf
    cases content with
    | error found => exact Or.inr ⟨[], place, labels, found, rest, rfl, nofun, rfl⟩
    | ok payload =>
      have isCase : (⟨place, labels, .ok payload⟩ : Leaf α).IsCase := ⟨payload, rfl⟩
      rcases ih with ⟨all, visited⟩ | ⟨before, stray, outer, found, after, split, all, visited⟩
      · refine Or.inl ⟨List.forall_mem_cons.mpr ⟨isCase, all⟩, ?_⟩
        rw [visitLeaves, visited]
        rfl
      · refine Or.inr ⟨⟨place, labels, .ok payload⟩ :: before, stray, outer, found, after, ?_,
          List.forall_mem_cons.mpr ⟨isCase, all⟩, ?_⟩
        · rw [split, List.cons_append]
        · rw [visitLeaves, visited]
          rfl

end Visits

/-! ## The first stray -/

section Strays

variable {α : Type}

/-- The first stray from left to right: its place and its kind. -/
structure FirstStray (tree : Tree α) (place : Place) (found : String) : Prop where
  stands : ∃ labels, tree.at? place = some (labels, stray found)
  first : ∀ other labels kind, tree.at? other = some (labels, stray kind) → ¬ other < place

theorem FirstStray.unique {tree : Tree α} {p q : Place} {found other : String}
    (hp : tree.FirstStray p found) (hq : tree.FirstStray q other) : p = q ∧ found = other := by
  obtain ⟨inner, stands⟩ := hp.stands
  obtain ⟨outer, stands'⟩ := hq.stands
  have same : p = q :=
    List.le_antisymm (hp.first q outer other stands') (hq.first p inner found stands)
  rw [same, stands'] at stands
  cases stands
  exact ⟨same, rfl⟩

def Strayless (tree : Tree α) : Prop :=
  ∀ place labels found, tree.at? place ≠ some (labels, stray found)

/-- The cases of a tree at the places with a property: each of them once, from left to right, with
the labels around it behind a context. -/
def Lists (tree : Tree α) (context : List Value) (P : Place → Prop)
    (cases : List (List Value × α)) : Prop :=
  ∃ placed : List (Place × List Value × α),
    placed.Pairwise (fun a b => a.1 < b.1) ∧
    (∀ place labels payload, (place, labels, payload) ∈ placed ↔
      P place ∧ tree.at? place = some (labels, case payload)) ∧
    cases = placed.map (inContext context)

/-- The payloads of all cases are as they should be, whatever strays there are. -/
def CasesAll (P : α → Prop) (tree : Tree α) : Prop :=
  ∀ place labels payload, tree.at? place = some (labels, case payload) → P payload

theorem CasesAll.under {P : α → Prop} {name : Value} {child : Tree α}
    (all : (label name child).CasesAll P) : child.CasesAll P :=
  fun place _ payload h => all (0 :: place) _ payload (at?_label h)

theorem CasesAll.member {P : α → Prop} {children : List (Tree α)}
    (all : (group children).CasesAll P) : ∀ child ∈ children, child.CasesAll P := by
  intro child member place labels payload h
  obtain ⟨number, hn⟩ := List.getElem?_of_mem member
  exact all (number :: place) labels payload ((at?_group hn).trans h)

theorem CasesAll.of_leaves {P : α → Prop} {tree : Tree α}
    (all : ∀ leaf ∈ tree.leaves, ∀ payload, leaf.content = .ok payload → P payload) :
    tree.CasesAll P :=
  fun _ _ payload h => all _ (mem_leaves_case.mpr h) payload rfl

/-- Where the leaves up to a point are cases, a visit of them lists the cases at their places. -/
theorem lists_before {tree : Tree α} {context : List Value} {P : Place → Prop}
    {before after : List (Leaf α)} (split : tree.leaves = before ++ after)
    (inside : ∀ leaf ∈ before, P leaf.place)
    (outside : ∀ leaf ∈ after, leaf.IsCase → ¬ P leaf.place) :
    tree.Lists context P (casesAmong context before) := by
  have ascend : before.Pairwise Leaf.Before :=
    (List.pairwise_append.mp (split ▸ tree.leaves_ascend)).1
  refine ⟨before.filterMap Leaf.case?, ?_, ?_, rfl⟩
  · refine List.pairwise_filterMap.mpr (ascend.imp ?_)
    rintro a b earlier ⟨place, labels, payload⟩ ha ⟨other, _, _⟩ hb
    rw [Leaf.case?_eq_some.mp ha, Leaf.case?_eq_some.mp hb] at earlier
    exact earlier
  · intro place labels payload
    rw [List.mem_filterMap]
    constructor
    · rintro ⟨leaf, member, shown⟩
      rw [Leaf.case?_eq_some] at shown
      subst shown
      have listed : ⟨place, labels, .ok payload⟩ ∈ tree.leaves := by
        rw [split]
        exact List.mem_append_left _ member
      exact ⟨inside _ member, mem_leaves_case.mp listed⟩
    · rintro ⟨holds, stands⟩
      have listed : ⟨place, labels, .ok payload⟩ ∈ tree.leaves := mem_leaves_case.mpr stands
      rw [split, List.mem_append] at listed
      rcases listed with member | member
      · exact ⟨_, member, Leaf.case?_eq_some.mpr rfl⟩
      · exact absurd holds (outside _ member ⟨payload, rfl⟩)

theorem strayless_of_cases {tree : Tree α} (all : ∀ leaf ∈ tree.leaves, leaf.IsCase) :
    tree.Strayless := by
  intro place labels found stands
  obtain ⟨payload, isCase⟩ := all _ (mem_leaves_stray.mpr stands)
  cases isCase

/-- A stray behind cases only is the first. -/
theorem firstStray_of_split {tree : Tree α} {before after : List (Leaf α)} {place : Place}
    {labels : List Value} {found : String}
    (split : tree.leaves = before ++ ⟨place, labels, .error found⟩ :: after)
    (all : ∀ leaf ∈ before, leaf.IsCase) : tree.FirstStray place found where
  stands := by
    have listed : ⟨place, labels, .error found⟩ ∈ tree.leaves := by
      rw [split]
      exact List.mem_append_right _ List.mem_cons_self
    exact ⟨labels, mem_leaves_stray.mp listed⟩
  first := by
    intro other outer kind stands earlier
    have listed : ⟨other, outer, .error kind⟩ ∈ tree.leaves := mem_leaves_stray.mpr stands
    have ascend := split ▸ tree.leaves_ascend
    rw [split, List.mem_append, List.mem_cons] at listed
    rcases listed with member | same | member
    · obtain ⟨payload, isCase⟩ := all _ member
      cases isCase
    · cases same
      exact List.lt_irrefl _ earlier
    · have later := (List.pairwise_cons.mp (List.pairwise_append.mp ascend).2.1).1 _ member
      exact List.lt_asymm earlier later

end Strays

/-! ## Building and visiting -/

mutual

/-- A tree is built exactly if a visit meets no stray, and else refused for the stray that ends the
visit. -/
theorem compile_visit (i : Interpreter) (context : List Value) :
    ∀ tree : Tree Operand, tree.CasesAll Operand.IsComputation →
      tree.compile i =
        match (tree.visit context).stray with
        | some found => .error (.mismatch (.treeNode found))
        | none => .ok (.program (tree.program i))
  | case o, runs => by
    obtain ⟨p, rfl⟩ := runs [] [] o rfl
    rfl
  | stray _, _ => rfl
  | label name child, runs => by
    rw [compile, compile_visit i (context ++ [name]) child runs.under, visit]
    cases (child.visit (context ++ [name])).stray <;> rfl
  | group children, runs => by
    rw [compile, compileAll_visit i context children runs.member, visit]
    cases (visitAll context children).stray with
    | some found => rfl
    | none =>
      simp only [bind, Except.bind, sequence_programs]
      rfl

theorem compileAll_visit (i : Interpreter) (context : List Value) :
    ∀ trees : List (Tree Operand), (∀ child ∈ trees, child.CasesAll Operand.IsComputation) →
      compileAll i trees =
        match (visitAll context trees).stray with
        | some found => .error (.mismatch (.treeNode found))
        | none => .ok ((programs i trees).map .program)
  | [], _ => rfl
  | child :: rest, runs => by
    obtain ⟨first, later⟩ := List.forall_mem_cons.mp runs
    rw [compileAll, compile_visit i context child first, compileAll_visit i context rest later,
      visitAll]
    cases (child.visit context).stray with
    | some found => rfl
    | none => cases (visitAll context rest).stray <;> rfl

end

/-- Builds the computation of a tree, then runs it on a host. -/
def perform {σ : Type} (m : Machine σ) (tree : Tree Operand) (context : List Value)
    (h : Host σ) : Outcome Value × Host σ :=
  Host.andThen (h.still (tree.compile .host)) fun o h => o.perform m context h

/-- A tree that is refused for the stray at a place. -/
structure Rejected (tree : Tree Operand) (context : List Value) (place : Place)
    (found : String) : Prop where
  built : ∀ i, tree.compile i = .error (.mismatch (.treeNode found))
  flat : tree.cases context = .error (.mismatch (.treeNode found))
  message : (Error.mismatch (.treeNode found)).message = .plain ("not a test tree node: " ++ found)
  /-- The cases before the stray were met. -/
  visited : tree.Lists context (· < place) (tree.visit context).cases
  /-- No simulated run comes to anything else, whatever the payloads would do. -/
  simulated : ∀ server e, tree.simulate server e = .error (.mismatch (.treeNode found))
  /-- A host is left as it was. -/
  performed : ∀ {σ : Type} (m : Machine σ) (path : List Value) (h : Host σ),
    tree.perform m path h = (.error (.mismatch (.treeNode found)), h)

/-- A tree that is built; a visit meets all of its cases. -/
structure Accepted (tree : Tree Operand) (context : List Value) : Prop where
  built : ∀ i, ∃ p, tree.compile i = .ok (.program p)
  flat : tree.cases context = .ok (tree.visit context).cases
  visited : tree.Lists context (fun _ => True) (tree.visit context).cases

variable {tree : Tree Operand} {context : List Value}

theorem rejected_of_stray (runs : tree.CasesAll Operand.IsComputation)
    {before after : List (Leaf Operand)} {place : Place} {labels : List Value} {found : String}
    (split : tree.leaves = before ++ ⟨place, labels, .error found⟩ :: after)
    (met : tree.visit context = ⟨casesAmong context before, some found⟩) :
    tree.Rejected context place found := by
  have ascend := List.pairwise_append.mp (split ▸ tree.leaves_ascend)
  have built : ∀ i, tree.compile i = .error (.mismatch (.treeNode found)) := by
    intro i
    rw [compile_visit i context tree runs, met]
  refine ⟨built, ?_, rfl, ?_, ?_, ?_⟩
  · rw [cases, met]
  · rw [met]
    refine lists_before split ?_ ?_
    · intro leaf member
      exact ascend.2.2 leaf member _ List.mem_cons_self
    · intro leaf member isCase earlier
      rcases List.mem_cons.mp member with rfl | later
      · exact List.lt_irrefl _ earlier
      · exact List.lt_asymm earlier ((List.pairwise_cons.mp ascend.2.1).1 leaf later)
  · intro server e
    rw [Tree.simulate, built]
    rfl
  · intro σ m path h
    rw [perform, built]
    rfl

theorem accepted_of_cases (runs : tree.CasesAll Operand.IsComputation)
    (met : tree.visit context = ⟨casesAmong context tree.leaves, none⟩) :
    tree.Accepted context := by
  refine ⟨?_, ?_, ?_⟩
  · intro i
    exact ⟨tree.program i, by rw [compile_visit i context tree runs, met]⟩
  · rw [cases, met]
  · rw [met]
    exact lists_before (List.append_nil _).symm (fun _ _ => trivial)
      fun _ member => absurd member List.not_mem_nil

/-- A tree whose cases are computations is refused by either interpreter and by a visit alike. The
error names the first stray; nothing has run, and the visit has met the cases before the stray.
A tree without strays is built, and a visit meets every case once. -/
theorem malformed_refused_alike (tree : Tree Operand)
    (runs : tree.CasesAll Operand.IsComputation) (context : List Value) :
    (∀ i e, tree.compile i = .error e ↔ tree.cases context = .error e) ∧
      (∀ place found, tree.FirstStray place found → tree.Rejected context place found) ∧
      (tree.Strayless → tree.Accepted context) ∧
      (tree.Strayless ∨ ∃ place found, tree.FirstStray place found) := by
  have visited := tree.visit_leaves context
  rcases visitLeaves_cases context tree.leaves with
    ⟨all, met⟩ | ⟨before, place, labels, found, after, split, all, met⟩
  · have accepted : tree.Accepted context := accepted_of_cases runs (visited.trans met)
    have strayless : tree.Strayless := strayless_of_cases all
    refine ⟨?_, ?_, fun _ => accepted, Or.inl strayless⟩
    · intro i e
      obtain ⟨p, built⟩ := accepted.built i
      rw [built, accepted.flat]
      exact ⟨nofun, nofun⟩
    · intro place found first
      obtain ⟨labels, stands⟩ := first.stands
      exact absurd stands (strayless place labels found)
  · have rejected : tree.Rejected context place found :=
      rejected_of_stray runs split (visited.trans met)
    have first : tree.FirstStray place found := firstStray_of_split split all
    refine ⟨?_, ?_, ?_, Or.inr ⟨place, found, first⟩⟩
    · intro i e
      rw [rejected.built i, rejected.flat, Except.error.injEq, Except.error.injEq]
    · intro other kind another
      obtain ⟨rfl, rfl⟩ := first.unique another
      exact rejected
    · intro strayless
      obtain ⟨labels, stands⟩ := first.stands
      exact absurd stands (strayless place labels found)

/-- A case under a label, two strays of which the first stands below the same label, and a case that
stops with an error. -/
def scrambled : Tree Operand :=
  group [group [], label (.text "outer") (group [case (.program (.ask .context)), stray "int"]),
    stray "str", case (.program (.body (.raise .memory)))]

theorem scrambled_rejected :
    scrambled.CasesAll Operand.IsComputation ∧ scrambled.FirstStray [1, 0, 1] "int" ∧
      scrambled.Rejected [.text "all"] [1, 0, 1] "int" ∧
      (scrambled.visit [.text "all"]).cases =
        [([.text "all", .text "outer"], .program (.ask .context))] := by
  have runs : scrambled.CasesAll Operand.IsComputation := by
    refine .of_leaves ?_
    simp [scrambled, leaves, leavesFrom, Leaf.inChild, Leaf.under, Operand.IsComputation]
  have first : scrambled.FirstStray [1, 0, 1] "int" := by
    have split : scrambled.leaves =
        [⟨[1, 0, 0], [.text "outer"], .ok (.program (.ask .context))⟩] ++
          ⟨[1, 0, 1], [.text "outer"], .error "int"⟩ ::
            [⟨[2], [], .error "str"⟩,
              ⟨[3], [], .ok (.program (.body (.raise .memory)))⟩] := rfl
    exact firstStray_of_split split (List.forall_mem_singleton.mpr ⟨_, rfl⟩)
  obtain ⟨_, refused, _, _⟩ := malformed_refused_alike scrambled runs [.text "all"]
  exact ⟨runs, first, refused [1, 0, 1] "int" first, rfl⟩

end Tree

end Rehearsal
