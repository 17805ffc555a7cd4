import Rehearsal.Proofs.Run.Footprint

/-!
# Programs that commute

Two programs that share no resource may run in either order. Each depends on its own resources only
and leaves those of the other one alone, so it goes alike before and after it; and both orders take
the same ticks in all, which there is room for in one order exactly if there is in the other.
-/

namespace Rehearsal

/-- A run and the tick after it leave everything but its resources and the clock as it was. -/
theorem Run.Frames.tick {R : Resource → Prop} {e u w : Environment} {run : Run}
    (h : run.Frames R e) (left : run.left = .environment u) (tick : u.advance = .ok w) :
    Environment.AgreeOn (¬ R ·) e w := by
  obtain ⟨t, ht, framed⟩ := h
  obtain rfl : t = u := by simpa [left] using ht.symm
  exact framed.trans (Environment.AgreeOn.advance tick)

/-- One program after the other, and what is made of their values. -/
def Body.pair (p q : Program) (give : Value → Value → Value) : Body :=
  .yield p fun a => .yield q fun b => .done (give a b)

/-- What a run of a pair consists of: a run of each program, with a tick after it. -/
structure PairRun (server : Responder) (p q : Program) (s t : Environment) where
  first : Run
  second : Run
  between : Environment
  behind : Environment
  resumed : Environment
  traced : p.trace server s = .ok first
  left : first.left = .environment between
  tick : between.advance = .ok resumed
  traced' : q.trace server resumed = .ok second
  left' : second.left = .environment behind
  tick' : behind.advance = .ok t

namespace PairRun

variable {server : Responder} {p q : Program} {s t : Environment}

theorem of_simulate (give : Value → Value → Value) {v : Value} {after : Aftermath}
    (h : (Body.pair p q give).simulate server s = .ok (v, after)) :
    ∃ t, after = .environment t ∧ ∃ r : PairRun server p q s t,
      v = give r.first.value r.second.value := by
  rw [← Body.trace_result, Outcome.map_eq_ok] at h
  obtain ⟨run, traced, hr⟩ := h
  obtain ⟨first, u, w, rest, hf, hu, tick, hs, rfl⟩ := Body.trace_yield_ok traced
  obtain ⟨second, x, t, last, hq, hx, tick', hl, rfl⟩ := Body.trace_yield_ok hs
  cases hl
  cases hr
  exact ⟨t, rfl, ⟨first, second, u, x, w, hf, hu, tick, hq, hx, tick'⟩, rfl⟩

theorem simulate (r : PairRun server p q s t) (give : Value → Value → Value) :
    (Body.pair p q give).simulate server s =
      .ok (give r.first.value r.second.value, .environment t) := by
  simp only [Body.pair, Body.simulate, Program.simulate_of_trace r.traced, r.left, Bind.bind,
    Except.bind, Aftermath.require, r.tick, Program.simulate_of_trace r.traced', r.left', r.tick']

/-- The clock takes the ticks of both programs and one after each of them. -/
theorem clock (r : PairRun server p q s t) (hp : p.All Request.Isolated)
    (hq : q.All Request.Isolated) :
    s.clock.add? (s.tick.times (r.first.ticks + r.second.ticks + 2)) = some t.clock := by
  have keeps (p : Program) (hp : p.All Request.Isolated) : p.All Request.KeepsEnvironment :=
    Program.All.mono (fun _ => Request.Isolated.keepsEnvironment) p hp
  obtain ⟨u, hu, _, walked⟩ := p.trace_walks (keeps p hp) r.traced
  obtain ⟨w, hw, _, walked'⟩ := q.trace_walks (keeps q hq) r.traced'
  obtain rfl : u = r.between := by simpa [r.left] using hu.symm
  obtain rfl : w = r.behind := by simpa [r.left'] using hw.symm
  have whole := (walked.andThen r.tick walked').append (.single (.ticked r.tick'))
  have counted : (r.first.events ++ Event.ticked :: r.second.events ++ [Event.ticked]).countP
      Event.isTick = r.first.ticks + r.second.ticks + 2 := by
    have tick : Event.isTick .ticked = true := rfl
    simp only [List.countP_append, List.countP_cons_of_pos tick, List.countP_nil, Run.ticks]
    omega
  rw [← counted]
  exact whole.clock.2

/-- The programs in the other order: each goes as it did, and the same is left behind. -/
theorem swapped (r : PairRun server p q s t) (hp : p.All Request.Isolated)
    (hq : q.All Request.Isolated) (apart : ∀ x, ¬ (p.Touches x ∧ q.Touches x)) :
    ∃ r' : PairRun server q p s t,
      r'.first.value = r.second.value ∧ r'.second.value = r.first.value := by
  have room : s.Room (r.first.ticks + r.second.ticks + 2) := ⟨_, r.clock hp hq⟩
  have framed : Environment.AgreeOn (¬ p.Touches ·) s r.resumed :=
    (p.trace_frame hp (fun _ hx => hx) r.traced).tick r.left r.tick
  have framed' : Environment.AgreeOn (¬ q.Touches ·) r.resumed t :=
    (q.trace_frame hq (fun _ hx => hx) r.traced').tick r.left' r.tick'
  -- The second program from the start, which agrees on its resources with what it met.
  have ready : Environment.AgreeOn q.Touches r.resumed s :=
    (framed.mono fun x hx touched => apart x ⟨touched, hx⟩).symm
  obtain ⟨one, ho, alike⟩ := q.trace_congr hq (fun _ hx => hx) ready r.traced'
    (room.fewer (by omega))
  obtain ⟨u, w, hu, tick, same, rest⟩ := alike.resume (n := r.first.ticks + 1) hq ho r.left' r.tick'
    (room.fewer (by omega))
  have before : Environment.AgreeOn (¬ q.Touches ·) s w :=
    (q.trace_frame hq (fun _ hx => hx) ho).tick hu tick
  -- Then the first one, whose resources are still those of the start.
  have ready' : Environment.AgreeOn p.Touches s w :=
    before.mono fun x hx touched => apart x ⟨hx, touched⟩
  obtain ⟨two, ht, alike'⟩ := p.trace_congr hp (fun _ hx => hx) ready' r.traced
    (rest.fewer (by omega))
  obtain ⟨v, last, hv, tick', same', _⟩ := alike'.resume (n := 0) hp ht r.left r.tick
    (rest.fewer (by omega))
  have after : Environment.AgreeOn (¬ p.Touches ·) w last :=
    (p.trace_frame hp (fun _ hx => hx) ht).tick hv tick'
  let r' : PairRun server q p s last := ⟨one, two, u, v, w, ho, hu, tick, ht, hv, tick'⟩
  have one_place : t = last := by
    have fixed : Environment.AgreeOn (fun x => q.Touches x ∧ ¬ p.Touches x) t last :=
      (same.mono fun _ hx => hx.1).trans (after.mono fun _ hx => hx.2)
    refine Environment.AgreeOn.eq (fun x => ?_) fixed ?_
    · by_cases hx : p.Touches x
      · have untouched : ¬ q.Touches x := fun touched => apart x ⟨hx, touched⟩
        exact (framed'.resources x untouched).symm.trans (same'.resources x hx)
      · by_cases hy : q.Touches x
        · exact (same.resources x hy).trans (after.resources x hx)
        · exact ((framed'.resources x hy).symm.trans (framed.resources x hx).symm).trans
            ((before.resources x hy).trans (after.resources x hx))
    · have clock := r'.clock hq hp
      have count : r'.first.ticks + r'.second.ticks = r.first.ticks + r.second.ticks := by
        rw [alike.2.1, alike'.2.1, Nat.add_comm]
      rw [count, r.clock hp hq] at clock
      exact Option.some.inj clock
  subst one_place
  exact ⟨r', alike.1, alike'.1⟩

end PairRun

/-- Two programs without a common resource, neither of which looks at the environment as a whole or
at the time, may be yielded in either order. -/
theorem Program.pair_commutes (server : Responder) (p q : Program) (hp : p.All Request.Isolated)
    (hq : q.All Request.Isolated) (apart : ∀ x, ¬ (p.Touches x ∧ q.Touches x)) (s : Environment)
    (v : Value) (after : Aftermath) :
    (Program.body (.yield p fun a => .yield q fun b => .done (.tuple [a, b]))).simulate server s =
        .ok (v, after) ↔
      (Program.body (.yield q fun b => .yield p fun a => .done (.tuple [a, b]))).simulate server s =
        .ok (v, after) := by
  constructor
  · intro h
    obtain ⟨t, rfl, r, rfl⟩ := PairRun.of_simulate (fun a b => .tuple [a, b]) h
    obtain ⟨r', hb, ha⟩ := r.swapped hp hq apart
    rw [← ha, ← hb]
    exact r'.simulate fun b a => .tuple [a, b]
  · intro h
    obtain ⟨t, rfl, r, rfl⟩ := PairRun.of_simulate (fun b a => .tuple [a, b]) h
    obtain ⟨r', ha, hb⟩ := r.swapped hq hp fun x hx => apart x ⟨hx.2, hx.1⟩
    rw [← ha, ← hb]
    exact r'.simulate fun a b => .tuple [a, b]

/-- Reads a line and writes it to the standard output. -/
def echoLine : Program :=
  .bind (.ask (.getLine (.handle .stdin))) fun line => .put .stdout line

/-- Loads a file that is missing, then draws a number. -/
def loadAndDraw : Program :=
  .bind (.attempt (.ask (.loadFile (.text "notes"))) .general) fun _ => .ask .randomInt

theorem echoLine_loadAndDraw_commute :
    echoLine.All Request.Isolated ∧ loadAndDraw.All Request.Isolated ∧
      (∀ x, ¬ (echoLine.Touches x ∧ loadAndDraw.Touches x)) ∧
      ∃ result,
        (Program.body (.yield echoLine fun a => .yield loadAndDraw fun b =>
            .done (.tuple [a, b]))).simulate .unreachable .fresh = .ok result ∧
          (Program.body (.yield loadAndDraw fun b => .yield echoLine fun a =>
            .done (.tuple [a, b]))).simulate .unreachable .fresh = .ok result := by
  have echoes : echoLine.All Request.Isolated := by
    simp [echoLine, Program.All, Program.put, Request.Isolated]
  have loads : loadAndDraw.All Request.Isolated := by
    simp [loadAndDraw, Program.All, Request.Isolated]
  have apart : ∀ x, ¬ (echoLine.Touches x ∧ loadAndDraw.Touches x) := by
    have stdout : (Value.handle .stdout).same (.handle .stdout) = true := by simp [Value.same]
    rintro x ⟨hp, hq⟩
    simp only [echoLine, loadAndDraw, Program.put, Program.Touches, Request.resources, stdout,
      List.mem_cons, List.not_mem_nil, or_false, exists_const, ↓reduceIte] at hp hq
    rcases hp with rfl | rfl <;> simp at hq
  have returns : ∃ result, (Program.body (.yield echoLine fun a => .yield loadAndDraw fun b =>
      .done (.tuple [a, b]))).simulate .unreachable .fresh = .ok result := by
    simp only [echoLine, Program.simulate, Body.simulate, Program.put, Request.simulate,
      Environment.put_stdout]
    exact ⟨_, rfl⟩
  obtain ⟨⟨v, after⟩, h⟩ := returns
  exact ⟨echoes, loads, apart, (v, after), h,
    (Program.pair_commutes _ _ _ echoes loads apart .fresh v after).mp h⟩

end Rehearsal
