import Rehearsal.Tree

/-!
# The agenda of a case tree

Laid out flat, a tree is a list of stages: its cases, each with the labels around it, and a tick
after every child of a group, whether that child is a case, a label or a group, empty or not.
-/

namespace Rehearsal

inductive Stage (α : Type) where
  | case (path : List Value) (payload : α)
  | tick

namespace Stage

def case? {α : Type} : Stage α → Option (List Value × α)
  | case path payload => some (path, payload)
  | tick => none

def isTick {α : Type} : Stage α → Bool
  | case _ _ => false
  | tick => true

end Stage

namespace Tree

variable {α : Type}

mutual

/-- Every position holds a tree and every payload is as it should be. -/
def All (P : α → Prop) : Tree α → Prop
  | case payload => P payload
  | group children => AllOf P children
  | label _ child => child.All P
  | stray _ => False

def AllOf (P : α → Prop) : List (Tree α) → Prop
  | [] => True
  | child :: rest => child.All P ∧ AllOf P rest

end

mutual

theorem All.mono {P Q : α → Prop} (h : ∀ a, P a → Q a) : ∀ tree : Tree α, tree.All P → tree.All Q
  | case payload, all => h payload all
  | group children, all => AllOf.mono h children all
  | label _ child, all => All.mono h child all
  | stray _, all => all.elim

theorem AllOf.mono {P Q : α → Prop} (h : ∀ a, P a → Q a) :
    ∀ trees : List (Tree α), AllOf P trees → AllOf Q trees
  | [], _ => trivial
  | child :: rest, all => ⟨All.mono h child all.1, AllOf.mono h rest all.2⟩

end

mutual

def agenda (path : List Value) : Tree α → List (Stage α)
  | case payload => [.case path payload]
  | group children => agendaOf path children
  | label name child => child.agenda (path ++ [name])
  | stray _ => []

def agendaOf (path : List Value) : List (Tree α) → List (Stage α)
  | [] => []
  | child :: rest => child.agenda path ++ .tick :: agendaOf path rest

end

mutual

/-- The sum of the lengths of all groups. -/
def childCount : Tree α → Nat
  | case _ | stray _ => 0
  | group children => childCountOf children
  | label _ child => child.childCount

/-- The children themselves and the children below them. -/
def childCountOf : List (Tree α) → Nat
  | [] => 0
  | child :: rest => child.childCount + 1 + childCountOf rest

end

/-- The value of a tree: that of its case if the labels are around nothing else. -/
def value (values : List Value) : Tree α → Value
  | case _ => values.headD .none
  | label _ child => child.value values
  | group _ | stray _ => .none

mutual

theorem visit_agenda {P : α → Prop} :
    ∀ (tree : Tree α) (path : List Value), tree.All P →
      tree.visit path = ⟨(tree.agenda path).filterMap Stage.case?, none⟩
  | case _, _, _ => rfl
  | group children, path, h => visitAll_agendaOf children path h
  | label name child, path, h => visit_agenda child (path ++ [name]) h
  | stray _, _, h => h.elim

theorem visitAll_agendaOf {P : α → Prop} :
    ∀ (trees : List (Tree α)) (path : List Value), AllOf P trees →
      visitAll path trees = ⟨(agendaOf path trees).filterMap Stage.case?, none⟩
  | [], _, _ => rfl
  | child :: rest, path, h => by
    simp only [visitAll, visit_agenda child path h.1, visitAll_agendaOf rest path h.2, agendaOf,
      List.filterMap_append, List.filterMap_cons, Stage.case?]

end

/-- The cases of the agenda are those of the flat view, in the same order. -/
theorem cases_agenda {P : α → Prop} {tree : Tree α} (path : List Value) (h : tree.All P) :
    tree.cases path = .ok ((tree.agenda path).filterMap Stage.case?) := by
  rw [cases, visit_agenda tree path h]

mutual

/-- Every child of a group brings one tick, wherever the group stands. -/
theorem agenda_ticks :
    ∀ (tree : Tree α) (path : List Value), (tree.agenda path).countP Stage.isTick = tree.childCount
  | case _, _ => rfl
  | group children, path => agendaOf_ticks children path
  | label name child, path => agenda_ticks child (path ++ [name])
  | stray _, _ => rfl

theorem agendaOf_ticks :
    ∀ (trees : List (Tree α)) (path : List Value),
      (agendaOf path trees).countP Stage.isTick = childCountOf trees
  | [], _ => rfl
  | child :: rest, path => by
    have tick : Stage.isTick (Stage.tick : Stage α) = true := rfl
    rw [agendaOf, List.countP_append, List.countP_cons_of_pos tick, agenda_ticks child path,
      agendaOf_ticks rest path, childCountOf]
    omega

end

end Tree

end Rehearsal
