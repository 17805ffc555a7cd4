import Rehearsal.Proofs.Value.Whole
import Rehearsal.Value.Draw

/-!
# The orbit of a seed

A step of the generator keeps the sign of the seed. Only even seeds are halved, so that nothing is
rounded, and three times a negative integer stays negative when one is added. All the seeds that
follow one another have the sign of the first, and a zero is drawn from the seed zero only. Draws
may be made in parts, each from the generator that the one before left.
-/

namespace Rehearsal

namespace Generator

theorem successor_neg {k : Int} (h : k < 0) : successor k < 0 := by
  unfold successor
  split
  · omega
  · omega

theorem successor_pos {k : Int} (h : 0 < k) : 0 < successor k := by
  unfold successor
  split
  · omega
  · omega

/-- One step keeps the sign. -/
theorem sign_successor (k : Int) : (successor k).sign = k.sign := by
  rcases Int.lt_trichotomy k 0 with neg | zero | pos
  · rw [Int.sign_eq_neg_one_of_neg neg, Int.sign_eq_neg_one_of_neg (successor_neg neg)]
  · rw [zero]
    rfl
  · rw [Int.sign_eq_one_of_pos pos, Int.sign_eq_one_of_pos (successor_pos pos)]

theorem draws_succ (g : Generator) (n : Nat) :
    g.draws (n + 1) = (g.next.1 :: (g.next.2.draws n).1, (g.next.2.draws n).2) := rfl

theorem length_draws (g : Generator) (n : Nat) : (g.draws n).1.length = n := by
  induction n generalizing g with
  | zero => rfl
  | succ n ih => rw [draws_succ, List.length_cons, ih]

/-- By induction on the number of draws: every seed on the way has the sign of the first. -/
theorem sign_draws (g : Generator) (n : Nat) : (g.draws n).2.seed.sign = g.seed.sign := by
  induction n generalizing g with
  | zero => rfl
  | succ n ih =>
    have step : g.next.2.seed.sign = g.seed.sign := sign_successor g.seed
    rw [draws_succ, ih, step]

/-- What is drawn is the size of a seed with the sign of the first. -/
theorem exists_seed_of_mem_draws {g : Generator} {n v : Nat} (h : v ∈ (g.draws n).1) :
    ∃ k : Int, v = k.natAbs ∧ k.sign = g.seed.sign := by
  induction n generalizing g with
  | zero => cases h
  | succ n ih =>
    rw [draws_succ, List.mem_cons] at h
    obtain first | later := h
    · exact ⟨g.seed, first, rfl⟩
    · obtain ⟨k, size, sign⟩ := ih later
      exact ⟨k, size, sign.trans (sign_successor g.seed)⟩

theorem eq_zero_iff_of_mem_draws {g : Generator} {n v : Nat} (h : v ∈ (g.draws n).1) :
    v = 0 ↔ g.seed = 0 := by
  obtain ⟨k, rfl, sign⟩ := exists_seed_of_mem_draws h
  rw [Int.natAbs_eq_zero, ← Int.sign_eq_zero_iff_zero, sign, Int.sign_eq_zero_iff_zero]

/-- Draws go on from the generator that those before left. -/
theorem draws_add (g : Generator) (m n : Nat) :
    g.draws (m + n) =
      ((g.draws m).1 ++ ((g.draws m).2.draws n).1, ((g.draws m).2.draws n).2) := by
  induction m generalizing g with
  | zero =>
    rw [Nat.zero_add]
    rfl
  | succ m ih => rw [Nat.add_right_comm, draws_succ, draws_succ, ih, List.cons_append]

example : (⟨-3⟩ : Generator).draws 3 = ([3, 8, 4], ⟨-2⟩) := by decide

end Generator

namespace Value

/-- From an integer the numbers of the generator with that seed are drawn. -/
theorem drawAll_int (k : Int) (n : Nat) :
    (int k).drawAll n =
      .ok ((Generator.draws ⟨k⟩ n).1.map fun v : Nat => int v,
        int (Generator.draws ⟨k⟩ n).2.seed) := by
  induction n generalizing k with
  | zero => rfl
  | succ n ih =>
    have first : (int k).nextSeed =
        .ok (int (Generator.next ⟨k⟩).1, int (Generator.next ⟨k⟩).2.seed) := rfl
    rw [drawAll, first]
    simp only [bind, Except.bind, ih]
    rfl

theorem draws_int (k : Int) (n : Nat) :
    (int k).draws (int n) =
      .ok ((Generator.draws ⟨k⟩ n).1.map fun v : Nat => int v,
        int (Generator.draws ⟨k⟩ n).2.seed) := by
  have counts : ¬ (n : Int) < 0 := by omega
  rw [draws, less_integers rfl rfl, decide_eq_false counts]
  exact drawAll_int k n

end Value

/-- As many numbers are drawn as are asked for, none of them negative, and zero is among them only
if it is the seed. The seed that is left has the sign of the first one, and from there the numbers
go on as if all had been drawn at once. -/
theorem draws_keep_sign (k : Int) (n : Nat) :
    ∃ (values : List Int) (last : Int),
      (Value.int k).draws (.int n) = .ok (values.map .int, .int last) ∧
      values.length = n ∧ last.sign = k.sign ∧
      (∀ v ∈ values, 0 ≤ v) ∧ (∀ v ∈ values, v = 0 ↔ k = 0) ∧
      ∀ m : Nat, ∃ (later : List Int) (final : Int),
        (Value.int last).draws (.int m) = .ok (later.map .int, .int final) ∧
        (Value.int k).draws (.int (n + m : Nat)) =
          .ok ((values ++ later).map .int, .int final) := by
  let left := Generator.draws ⟨k⟩ n
  refine ⟨left.1.map fun v : Nat => (v : Int), left.2.seed, ?_, ?_,
    Generator.sign_draws ⟨k⟩ n, ?_, ?_, ?_⟩
  · rw [Value.draws_int, List.map_map]
    rfl
  · rw [List.length_map]
    exact Generator.length_draws ⟨k⟩ n
  · intro v hv
    obtain ⟨size, _, rfl⟩ := List.mem_map.mp hv
    exact Int.natCast_nonneg size
  · intro v hv
    obtain ⟨size, drawn, rfl⟩ := List.mem_map.mp hv
    rw [Int.natCast_eq_zero]
    exact Generator.eq_zero_iff_of_mem_draws drawn
  · intro m
    refine ⟨(left.2.draws m).1.map fun v : Nat => (v : Int), (left.2.draws m).2.seed, ?_, ?_⟩
    · rw [Value.draws_int, List.map_map]
      rfl
    · rw [Value.draws_int, Generator.draws_add, ← List.map_append, List.map_map]
      rfl

end Rehearsal
