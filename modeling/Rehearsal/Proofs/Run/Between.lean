import Rehearsal.Host.Staged
import Rehearsal.Proofs.Host.Turns
import Rehearsal.Proofs.Run.Draws
import Rehearsal.Proofs.Run.Scope
import Rehearsal.Script.Action

/-!
# Draws between two integers

A draw between two integers lies between them, whichever comes first, and every integer between them
is drawn from some seed. Of the generator of a host one thing is known: asked for an integer between
bounds that are in order, it gives one. A world that notes the draws shows that a host asks once
each time that a draw is carried out, and always with the bounds in order.
-/

namespace Rehearsal

/-! ## The visible generator -/

/-- The integer between two others that a number leads to. -/
def Number.placed (a b : Int) (n : Nat) : Int := min a b + n % (max a b - min a b + 1)

namespace Number

theorem placed_comm (a b : Int) (n : Nat) : placed a b n = placed b a n := by
  rw [placed, placed, Int.min_comm, Int.max_comm]

theorem placed_within (a b : Int) (n : Nat) : min a b ≤ placed a b n ∧ placed a b n ≤ max a b := by
  have width : 0 < max a b - min a b + 1 := by omega
  have above : 0 ≤ (n : Int) % (max a b - min a b + 1) := Int.emod_nonneg _ (by omega)
  have below : (n : Int) % (max a b - min a b + 1) < max a b - min a b + 1 :=
    Int.emod_lt_of_pos _ width
  unfold placed
  omega

/-- An integer between the two others is led to by its distance from the lower one. -/
theorem placed_distance {a b n : Int} (above : min a b ≤ n) (below : n ≤ max a b) :
    placed a b (n - min a b).natAbs = n := by
  have distance : ((n - min a b).natAbs : Int) = n - min a b := Int.natAbs_of_nonneg (by omega)
  rw [placed, distance, Int.emod_eq_of_lt (by omega) (by omega)]
  omega

end Number

namespace Value

theorem ordered_ints (a b : Int) :
    ordered (.int a) (.int b) = .ok (.int (min a b), .int (max a b)) := by
  rw [ordered, greater_integers rfl rfl]
  by_cases h : b < a
  · rw [decide_eq_true h, Int.min_eq_right (Int.le_of_lt h), Int.max_eq_left (Int.le_of_lt h)]
    rfl
  · have le : a ≤ b := Int.not_lt.mp h
    rw [decide_eq_false h, Int.min_eq_left le, Int.max_eq_right le]
    rfl

theorem randomBetween_ints (a b k : Int) :
    randomBetween (.int a) (.int b) (.int k) =
      .ok (.int (Number.placed a b k.natAbs), .int (Generator.next ⟨k⟩).2.seed) := by
  rw [randomBetween, ordered_ints]
  rfl

theorem randomInt_int (k : Int) :
    randomInt (.int k) =
      .ok (.int (Generator.randomInt ⟨k⟩).1, .int (Generator.next ⟨k⟩).2.seed) := by
  have limit : (0 : Int) < (Generator.intLimit + 1 : Nat) := by decide
  have drawn : nextSeed (.int k) = .ok (.int k.natAbs, .int (Generator.next ⟨k⟩).2.seed) := rfl
  rw [randomInt, drawn]
  simp only [bind, Except.bind, remainder, number?, Number.remainder_int _ limit]
  rfl

end Value

namespace Generator

theorem between_ints (a b : Int) (g : Generator) :
    g.between (.int a) (.int b) = .ok (.int (Number.placed a b g.next.1), g.next.2) := by
  rw [between, Value.ordered_ints]
  rfl

theorem randomInt_within (g : Generator) : range.1 ≤ g.randomInt.1 ∧ g.randomInt.1 ≤ range.2 := by
  have below : g.next.1 % (intLimit + 1) < intLimit + 1 := Nat.mod_lt _ (Nat.succ_pos _)
  have drawn : g.randomInt.1 = ((g.next.1 % (intLimit + 1) : Nat) : Int) := rfl
  rw [drawn, range]
  omega

end Generator

/-! ## The generator of a host -/

namespace Machine

variable {σ : Type}

/-- Asked for an integer between two that are in order, the machine gives one. -/
def DrawsWithin (m : Machine σ) : Prop :=
  ∀ low high world, low ≤ high →
    ∃ n, (m.randomInt (.int low) (.int high) world).1 = .ok (.int n) ∧ low ≤ n ∧ n ≤ high

/-- The machine in a world that notes the draws, latest first. -/
def noting (m : Machine σ) : Machine (σ × List Draw) where
  now w := ((m.now w.1).1, (m.now w.1).2, w.2)
  randomInt low high w :=
    ((m.randomInt low high w.1).1, (m.randomInt low high w.1).2, ⟨false, low, high⟩ :: w.2)
  uniform low high w :=
    ((m.uniform low high w.1).1, (m.uniform low high w.1).2, ⟨true, low, high⟩ :: w.2)
  send client request w :=
    ((m.send client request w.1).1, (m.send client request w.1).2, w.2)
  obstacle? p w := m.obstacle? p w.1
  loadFile p w := ((m.loadFile p w.1).1, (m.loadFile p w.1).2, w.2)
  saveFile p contents w := ((m.saveFile p contents w.1).1, (m.saveFile p contents w.1).2, w.2)

theorem randomInt_noting (m : Machine σ) (low high : Value) (w : σ × List Draw) :
    m.noting.randomInt low high w =
      ((m.randomInt low high w.1).1, (m.randomInt low high w.1).2, ⟨false, low, high⟩ :: w.2) := rfl

end Machine

/-- A draw of an integer between the lower and the higher one of two others. -/
def Draw.inOrder (a b : Int) : Draw := ⟨false, .int (min a b), .int (max a b)⟩

namespace Host

variable {σ : Type}

/-- An outcome that lies between two integers. -/
def IsBetween (a b : Int) (outcome : Outcome Value) : Prop :=
  ∃ n : Int, outcome = .ok (.int n) ∧ min a b ≤ n ∧ n ≤ max a b

/-- What a program does that draws between two integers on a host. -/
structure DrawsOnce (m : Machine σ) (a b : Int) (p : Program) : Prop where
  /-- Wherever it is carried out, it asks once, with the bounds in order. -/
  asked : ∀ context (h : Host (σ × List Draw)), ∃ outcome world,
    p.perform m.noting context h =
        (outcome, { h with world := (world, Draw.inOrder a b :: h.world.2) }) ∧
      IsBetween a b outcome
  /-- However often it is run, it asks once each time. -/
  replayed : ∀ count context (h : Host (σ × List Draw)),
    (taken m.noting (List.replicate count (.run (.program p) context)) h).world.2 =
        List.replicate count (Draw.inOrder a b) ++ h.world.2 ∧
      (outcomes m.noting (List.replicate count (.run (.program p) context)) h).length = count ∧
      ∀ outcome ∈ outcomes m.noting (List.replicate count (.run (.program p) context)) h,
        IsBetween a b outcome

theorem perform_randomBetween_ints (m : Machine σ) (a b : Int) (context : List Value)
    (h : Host σ) :
    (Request.randomBetween (.int a) (.int b)).perform m context h =
      ((m.randomInt (.int (min a b)) (.int (max a b)) h.world).1,
        { h with world := (m.randomInt (.int (min a b)) (.int (max a b)) h.world).2 }) := by
  rw [Request.perform, drawBetween, Value.ordered_ints]
  rfl

/-- A program that asks once wherever it is carried out does so however often it is run. -/
theorem DrawsOnce.of_asked {m : Machine σ} {a b : Int} {p : Program}
    (asked : ∀ context (h : Host (σ × List Draw)), ∃ outcome world,
      p.perform m.noting context h =
          (outcome, { h with world := (world, Draw.inOrder a b :: h.world.2) }) ∧
        IsBetween a b outcome) : DrawsOnce m a b p where
  asked := asked
  replayed count context h := by
    induction count generalizing h with
    | zero => exact ⟨rfl, rfl, List.forall_mem_nil _⟩
    | succ count ih =>
      obtain ⟨outcome, world, performed, between⟩ := asked context { h with assertions := [] }
      have run : (Operand.program p).perform m.noting context h =
          (outcome, { h with world := (world, Draw.inOrder a b :: h.world.2), assertions := [] }) :=
        performed
      obtain ⟨noted, length, each⟩ :=
        ih { h with world := (world, Draw.inOrder a b :: h.world.2), assertions := [] }
      rw [List.replicate_succ]
      simp only [taken, List.foldl_cons, Turn.take, outcomes, run] at noted length each ⊢
      refine ⟨?_, congrArg Nat.succ length, List.forall_mem_cons.mpr ⟨between, each⟩⟩
      rw [noted, List.replicate_succ', List.append_assoc]
      rfl

end Host

/-! ## Built draws -/

namespace Script

/-- A host puts the bounds in order when the draw is built. -/
theorem drawing_host (place : Origin) (a b : Int) :
    drawing .host place (.int a) (.int b) =
      .ok (.map (.ask (.randomBetween (.int (min a b)) (.int (max a b))))
        fun v => .ok (v.renewed place)) := by
  rw [drawing, if_pos rfl, Value.ordered_ints]
  rfl

theorem drawing_simulated (place : Origin) (a b : Int) :
    drawing .simulated place (.int a) (.int b) =
      .ok (.map (.ask (.randomBetween (.int a) (.int b))) fun v => .ok (v.renewed place)) := rfl

end Script

theorem Request.simulate_randomBetween_ints (server : Responder) (a b : Int) (e : Environment) :
    (Request.randomBetween (.int a) (.int b)).simulate server e =
      .ok (.int (Number.placed a b e.generator.next.1),
        .environment { e with generator := e.generator.next.2 }) := by
  rw [Request.simulate]
  simp only [Environment.drawBetween, Generator.between_ints]
  rfl

namespace Host

variable {σ : Type}

/-- A draw that a host has built asks once. -/
theorem drawsOnce_drawing {m : Machine σ} (within : m.DrawsWithin) (place : Origin) (a b : Int) :
    DrawsOnce m a b (.map (.ask (.randomBetween (.int (min a b)) (.int (max a b))))
      fun v => .ok (v.renewed place)) := by
  refine .of_asked fun context h => ?_
  have low : min (min a b) (max a b) = min a b := by omega
  have high : max (min a b) (max a b) = max a b := by omega
  obtain ⟨n, drawn, above, below⟩ := within (min a b) (max a b) h.world.1 (by omega)
  have asked := perform_randomBetween_ints m.noting (min a b) (max a b) context h
  rw [low, high] at asked
  refine ⟨.ok (.int n), (m.randomInt (.int (min a b)) (.int (max a b)) h.world.1).2, ?_, n, rfl,
    above, below⟩
  rw [Program.perform, Program.perform, asked, Machine.randomInt_noting, drawn]
  rfl

end Host

/-! ## The laws of a draw -/

/-- Draws of the visible generator between two integers. -/
structure Generator.Spans (a b : Int) : Prop where
  /-- From every seed, both orders give the same integer between them, and the next seed. -/
  drawn : ∀ seed : Int, ∃ n, min a b ≤ n ∧ n ≤ max a b ∧
    Value.randomBetween (.int a) (.int b) (.int seed) =
      .ok (.int n, .int (next ⟨seed⟩).2.seed) ∧
    Value.randomBetween (.int b) (.int a) (.int seed) =
      .ok (.int n, .int (next ⟨seed⟩).2.seed)
  /-- No integer between them is missed. -/
  covered : ∀ n, min a b ≤ n → n ≤ max a b → ∃ seed : Int,
    Value.randomBetween (.int a) (.int b) (.int seed) = .ok (.int n, .int (next ⟨seed⟩).2.seed)
  /-- A simulated draw is that of the generator in its environment. -/
  simulated : ∀ server (e : Environment) place, ∃ n p q, min a b ≤ n ∧ n ≤ max a b ∧
    Script.drawing .simulated place (.int a) (.int b) = .ok p ∧
    Script.drawing .simulated place (.int b) (.int a) = .ok q ∧
    p.simulate server e = .ok (.int n, .environment { e with generator := e.generator.next.2 }) ∧
    q.simulate server e = .ok (.int n, .environment { e with generator := e.generator.next.2 })

theorem Generator.spans (a b : Int) : Spans a b where
  drawn seed := by
    obtain ⟨above, below⟩ := Number.placed_within a b seed.natAbs
    refine ⟨_, above, below, Value.randomBetween_ints a b seed, ?_⟩
    rw [Number.placed_comm]
    exact Value.randomBetween_ints b a seed
  covered n above below := by
    refine ⟨n - min a b, ?_⟩
    rw [Value.randomBetween_ints, Number.placed_distance above below]
  simulated server e place := by
    obtain ⟨above, below⟩ := Number.placed_within a b e.generator.next.1
    refine ⟨_, _, _, above, below, Script.drawing_simulated place a b,
      Script.drawing_simulated place b a, ?_, ?_⟩
    · simp only [Program.simulate, Request.simulate_randomBetween_ints]
      rfl
    · rw [Number.placed_comm]
      simp only [Program.simulate, Request.simulate_randomBetween_ints]
      rfl

/-- Draws between two integers lie between them, do not depend on their order and miss none of the
integers between them; a draw without bounds lies in the range of the generator. A host builds one
program for both orders, which asks its generator once each time, with the bounds in order. -/
theorem draws_between_integers {σ : Type} (m : Machine σ) (within : m.DrawsWithin) (a b : Int) :
    Generator.Spans a b ∧
      (∀ seed : Int, ∃ n, Generator.range.1 ≤ n ∧ n ≤ Generator.range.2 ∧
        Value.randomInt (.int seed) = .ok (.int n, .int (Generator.next ⟨seed⟩).2.seed)) ∧
      ∀ place, ∃ p, Script.drawing .host place (.int a) (.int b) = .ok p ∧
        Script.drawing .host place (.int b) (.int a) = .ok p ∧ Host.DrawsOnce m a b p := by
  refine ⟨Generator.spans a b, fun seed => ?_, fun place => ?_⟩
  · obtain ⟨above, below⟩ := Generator.randomInt_within ⟨seed⟩
    exact ⟨_, above, below, Value.randomInt_int seed⟩
  · refine ⟨_, Script.drawing_host place a b, ?_, Host.drawsOnce_drawing within place a b⟩
    rw [Script.drawing_host, Int.min_comm, Int.max_comm]

theorem bare_draws_between_integers :
    Machine.bare.DrawsWithin ∧ Generator.Spans 9 (-3) ∧
      ∃ p, Script.drawing .host [] (.int 9) (.int (-3)) = .ok p ∧
        (Host.taken Machine.bare.noting (List.replicate 3 (.run (.program p) []))
          { world := ((), []) }).world.2 = List.replicate 3 ⟨false, .int (-3), .int 9⟩ := by
  have within : Machine.bare.DrawsWithin := fun low _ _ le => ⟨low, rfl, Int.le_refl _, le⟩
  obtain ⟨spans, _, built⟩ := draws_between_integers Machine.bare within 9 (-3)
  obtain ⟨p, forward, _, once⟩ := built []
  obtain ⟨noted, _, _⟩ := once.replayed 3 [] { world := ((), []) }
  exact ⟨within, spans, p, forward, noted⟩

end Rehearsal
