import Mathlib.Data.List.Forall2
import Rehearsal.Proofs.Run.Trail
import Rehearsal.Proofs.Value.Whole

/-!
# The draws of a run

A run takes numbers from the generator of its environment, one for each random operation and in the
order in which they are carried out. Nothing else moves the generator, so a run draws what the
generator gives when it is asked for as many numbers at once.
-/

namespace Rehearsal

/-! ## Draws between integers -/

namespace Value

variable {low high : Value} {a b : Int}

/-- Two integers in their order, whichever of them comes first. -/
theorem ordered_integers {x y : Value} (hx : x.integer? = some a) (hy : y.integer? = some b) :
    ∃ low high, ordered x y = .ok (low, high) ∧ low.integer? = some (min a b) ∧
      high.integer? = some (max a b) := by
  rw [ordered, greater_integers hx hy]
  by_cases h : b < a
  · refine ⟨y, x, ?_, ?_, ?_⟩
    · rw [decide_eq_true h]
      rfl
    · rw [hy, Int.min_eq_right (Int.le_of_lt h)]
    · rw [hx, Int.max_eq_left (Int.le_of_lt h)]
  · have le : a ≤ b := Int.not_lt.mp h
    refine ⟨x, y, ?_, ?_, ?_⟩
    · rw [decide_eq_false h]
      rfl
    · rw [hx, Int.min_eq_left le]
    · rw [hy, Int.max_eq_right le]

theorem stepBetween_integers (hl : low.integer? = some a) (hh : high.integer? = some b)
    (le : a ≤ b) (n : Int) :
    stepBetween low high (.int n) = .ok (.int (a + n % (b - a + 1))) := by
  have pos : 0 < b - a + 1 := by omega
  have width : high.subtract [] low = .ok (.int (b - a)) := by
    cases high <;> cases hh <;> cases low <;> cases hl <;> rfl
  have count : (Value.int (b - a)).add [] (.int 1) = .ok (.int (b - a + 1)) := rfl
  have step : (Value.int n).remainder [] (.int (b - a + 1)) = .ok (.int (n % (b - a + 1))) := by
    simp only [remainder, number?, Number.remainder_int n pos]
    rfl
  have last : low.add [] (.int (n % (b - a + 1))) = .ok (.int (a + n % (b - a + 1))) := by
    cases low <;> cases hl <;> rfl
  rw [stepBetween, width]
  simp only [bind, Except.bind, count, step, last]

/-- A draw between integers moves on from the low one by a remainder of the drawn number. -/
theorem between_integers (hl : low.integer? = some a) (hh : high.integer? = some b)
    (le : a ≤ b) (n : Int) : between low high (.int n) = .ok (.int (a + n % (b - a + 1))) := by
  have stepped := stepBetween_integers hl hh le n
  cases high <;> cases hh <;> cases low <;> cases hl <;>
    first | rfl | exact stepped

end Value

theorem Generator.between_integers {x y v : Value} {a b : Int} {g after : Generator}
    (hx : x.integer? = some a) (hy : y.integer? = some b) (h : g.between x y = .ok (v, after)) :
    v = .int (min a b + g.next.1 % (max a b - min a b + 1)) := by
  obtain ⟨low, high, ordered, hl, hh⟩ := Value.ordered_integers hx hy
  have le : min a b ≤ max a b := by omega
  simp only [between, ordered, Outcome.bind_eq_ok, Outcome.pure_eq_ok, Except.ok.injEq] at h
  obtain ⟨_, rfl, drawn, hd, hv⟩ := h
  rw [Value.between_integers hl hh le] at hd
  cases hd
  cases hv
  rfl

/-! ## The draws of a trail -/

/-- A random operation: its bounds, if it has any, and the value that it gave. -/
structure Drawn where
  bounds : Option (Value × Value)
  value : Value

/-- The draw made its value from the number: a remainder by the size of its range, counted from the
lower bound. -/
def Drawn.From (d : Drawn) (n : Nat) : Prop :=
  match d.bounds with
  | none => d.value = .int (n % Nat.pow 2 63 : Nat)
  | some (x, y) => ∀ a b, x.integer? = some a → y.integer? = some b →
      d.value = .int (min a b + n % (max a b - min a b + 1))

def Event.draws : Event → List Drawn
  | .asked .randomInt v _ => [⟨none, v⟩]
  | .asked (.randomBetween a b) v _ => [⟨some (a, b), v⟩]
  | _ => []

/-- How many random operations are among the events. -/
def drawCount (events : List Event) : Nat := (events.flatMap Event.draws).length

/-- What a run draws, from the environment before it to the one after it. -/
structure Drawing (server : Responder) (s : Environment) (events : List Event)
    (t : Environment) : Prop where
  generator : t.generator = (s.generator.draws (drawCount events)).2
  values : List.Forall₂ Drawn.From (events.flatMap Event.draws)
    (s.generator.draws (drawCount events)).1
  /-- Each event moves the generator by its own draws, from where those before it left it. -/
  moves : ∀ before event later, events = before ++ event :: later →
    ∃ u w, Trail server s before u ∧ Step server u event w ∧ Trail server w later t ∧
      u.generator = (s.generator.draws (drawCount before)).2 ∧
      w.generator = (u.generator.draws event.draws.length).2

/-- A step makes one draw with the next number of the generator, or leaves the generator alone. -/
theorem Step.draws {server : Responder} {s t : Environment} {event : Event}
    (h : Step server s event t) :
    (event.draws = [] ∧ t.generator = s.generator) ∨
      ∃ d, event.draws = [d] ∧ d.From s.generator.next.1 ∧ t.generator = s.generator.next.2 := by
  cases h with
  | ticked h =>
    obtain ⟨clock, _, rfl⟩ := Environment.advance_ok h
    exact Or.inl ⟨rfl, rfl⟩
  | @asked r v keeps answers =>
    cases r with
    | randomInt => exact Or.inr ⟨_, rfl, answers, rfl⟩
    | randomBetween x y =>
      refine Or.inr ⟨_, rfl, ?_, rfl⟩
      intro a b hx hy
      obtain ⟨⟨_, after⟩, drawn, rfl⟩ := Outcome.map_eq_ok.mp answers
      exact Generator.between_integers hx hy drawn
    | _ => exact Or.inl ⟨rfl, rfl⟩
  | _ => exact Or.inl ⟨rfl, rfl⟩

namespace Trail

variable {server : Responder} {s t : Environment} {events : List Event}

/-- By induction along the trail: the generator is handed on from draw to draw. -/
theorem draws (h : Trail server s events t) :
    t.generator = (s.generator.draws (drawCount events)).2 ∧
      List.Forall₂ Drawn.From (events.flatMap Event.draws)
        (s.generator.draws (drawCount events)).1 := by
  induction h with
  | nil => exact ⟨rfl, .nil⟩
  | @cons s u t event events step _ ih =>
    rw [drawCount, List.flatMap_cons]
    obtain ⟨none, same⟩ | ⟨d, one, drawn, next⟩ := step.draws
    · rw [none, List.nil_append, ← same]
      exact ih
    · rw [one, List.singleton_append, List.length_cons]
      rw [next] at ih
      exact ⟨ih.1, .cons drawn ih.2⟩

theorem drawing (h : Trail server s events t) : Drawing server s events t where
  generator := h.draws.1
  values := h.draws.2
  moves := by
    rintro before event later rfl
    obtain ⟨u, first, rest⟩ := h.split
    cases rest with
    | @cons _ w _ _ _ step after =>
      have moved := (Trail.single step).draws.1
      rw [drawCount, List.flatMap_singleton] at moved
      exact ⟨u, w, first, step, after, first.draws.1, moved⟩

end Trail

/-- A run that puts no other environment in place takes one number for each random operation that it
carries out, as the generator gives them in a row, and moves the generator by nothing else. -/
theorem Program.simulate_draws (server : Responder) (p : Program) (s : Environment) (v : Value)
    (after : Aftermath) (keeps : p.All Request.KeepsEnvironment)
    (h : p.simulate server s = .ok (v, after)) :
    ∃ t events, after = .environment t ∧ p.trace server s = .ok ⟨v, after, events⟩ ∧
      Drawing server s events t := by
  obtain ⟨events, traced⟩ := Program.trace_of_simulate h
  obtain ⟨t, left, _, walked⟩ := p.trace_walks keeps traced
  exact ⟨t, events, left, traced, walked.drawing⟩

/-- Draws an integer, then another one between bounds in the wrong order, under a label. -/
def dicing : Program :=
  .bind (.ask .randomInt) fun _ =>
    .attempt (.nest (.text "dice") (.ask (.randomBetween (.int 9) (.int 3)))) .general

theorem dicing_draws :
    dicing.All Request.KeepsEnvironment ∧
      ∃ t events, dicing.simulate .unreachable .fresh = .ok (.success (.int 9), .environment t) ∧
        t.generator = ⟨9257⟩ ∧ Drawing .unreachable .fresh events t := by
  have keeps : dicing.All Request.KeepsEnvironment := ⟨trivial, fun _ => trivial⟩
  have returns : ∃ t, dicing.simulate .unreachable .fresh =
      .ok (.success (.int 9), .environment t) ∧ t.generator = ⟨9257⟩ := ⟨_, rfl, rfl⟩
  obtain ⟨t, h, generator⟩ := returns
  obtain ⟨u, events, left, _, drawing⟩ := dicing.simulate_draws _ _ _ _ keeps h
  cases left
  exact ⟨keeps, t, events, h, generator, drawing⟩

end Rehearsal
