import Rehearsal.Proofs.Run.Trail
import Rehearsal.Proofs.Time.Ticks

/-!
# The clock of a run

The clock of a simulated environment moves by one tick for every step of a sequence and stands still
otherwise. The steps of a run are counted on the program itself, without a look at the clock: one
whenever the continuation of a bind is entered and one whenever a yield is completed. A request for
the time answers with the start and the ticks so far, wherever it is nested.
-/

namespace Rehearsal

mutual

/-- How many steps of sequences a run takes. Values, requests, changes of a value, attempts and
labels take none of their own. -/
def Program.steps (server : Responder) : Program → Environment → Nat
  | .pure _, _ | .fail _, _ | .ask _, _ => 0
  | .bind p next, e =>
    p.steps server e +
      match p.simulate server e with
      | .error _ => 0
      | .ok (v, after) =>
        match (next v).enter after with
        | .error _ => 0
        | .ok entered => 1 + (next v).steps server entered
  | .map p _, e | .attempt p _, e => p.steps server e
  | .body b, e => b.steps server e
  | .nest name p, e => p.steps server { e with context := e.context ++ [name] }

def Body.steps (server : Responder) : Body → Environment → Nat
  | .done _, _ | .raise _, _ => 0
  | .yield p next, e =>
    p.steps server e +
      match p.simulate server e with
      | .error _ => 0
      | .ok (v, after) =>
        match after.require "advance" >>= Environment.advance with
        | .error _ => 0
        | .ok resumed => 1 + (next v).steps server resumed

end

mutual

/-- A run that returns ticks once for each of its steps. -/
theorem Program.trace_ticks {server : Responder} :
    ∀ (p : Program) {e : Environment} {run : Run},
      p.trace server e = .ok run → run.ticks = p.steps server e
  | .pure _, _, _, h => by
    cases h
    rfl
  | .fail _, _, _, h => by cases h
  | .ask _, _, _, h => by
    obtain ⟨_, _, _, rfl⟩ := Program.trace_ask_ok h
    rfl
  | .bind p next, e, _, h => by
    obtain ⟨first, entered, second, hf, he, hs, rfl⟩ := Program.trace_bind_ok h
    rw [Run.ticks_andThen, p.trace_ticks hf, (next first.value).trace_ticks hs, Program.steps,
      Program.simulate_of_trace hf]
    simp only [he, Nat.add_assoc]
  | .map p _, e, _, h => by
    obtain ⟨inner, _, hi, _, rfl⟩ := Program.trace_map_ok h
    have counted : inner.ticks = p.steps server e := p.trace_ticks hi
    exact counted
  | .body b, _, _, h => b.trace_ticks h
  | .attempt p _, e, _, h => by
    obtain ⟨inner, _, hi, _, rfl⟩ := Program.trace_attempt_ok h
    have counted : inner.ticks = p.steps server e := p.trace_ticks hi
    exact counted
  | .nest _ p, _, _, h => by
    obtain ⟨inner, _, hi, _, rfl⟩ := Program.trace_nest_ok h
    rw [Run.ticks_under, p.trace_ticks hi, Program.steps]

theorem Body.trace_ticks {server : Responder} :
    ∀ (b : Body) {e : Environment} {run : Run},
      b.trace server e = .ok run → run.ticks = b.steps server e
  | .done _, _, _, h => by
    cases h
    rfl
  | .raise _, _, _, h => by cases h
  | .yield p next, e, _, h => by
    obtain ⟨first, left, resumed, second, hf, hl, hr, hs, rfl⟩ := Body.trace_yield_ok h
    rw [Run.ticks_andThen, p.trace_ticks hf, (next first.value).trace_ticks hs, Body.steps,
      Program.simulate_of_trace hf]
    simp only [hl, Aftermath.require, Bind.bind, Except.bind, hr, Nat.add_assoc]

end

section Steps

variable {server : Responder} {s t : Environment} {event : Event}

/-- A step moves the clock if it is a tick, and never changes how far a tick moves it. -/
theorem Step.clock (h : Step server s event t) :
    t.tick = s.tick ∧
      s.clock.add? (s.tick.times ([event].countP Event.isTick)) = some t.clock := by
  cases h with
  | ticked h =>
    obtain ⟨clock, hc, rfl⟩ := Environment.advance_ok h
    have one : [Event.ticked].countP Event.isTick = 0 + 1 := rfl
    refine ⟨rfl, ?_⟩
    rw [one, ← Time.Instant.add?_times_succ hc, Time.Instant.add?_zero]
  | _ => exact ⟨rfl, Time.Instant.add?_zero _ _⟩

end Steps

/-- Along a trail the clock moves by one tick for each event that is one. -/
theorem Trail.clock {server : Responder} {s t : Environment} {events : List Event}
    (h : Trail server s events t) :
    t.tick = s.tick ∧ s.clock.add? (s.tick.times (events.countP Event.isTick)) = some t.clock := by
  induction h with
  | nil => exact ⟨rfl, Time.Instant.add?_zero _ _⟩
  | @cons s u t event events step _ ih =>
    obtain ⟨ht, hc⟩ := step.clock
    rw [ht] at ih
    refine ⟨ih.1, ?_⟩
    rw [← List.singleton_append, List.countP_append, ← Time.Instant.add?_times_add hc]
    exact ih.2

/-- A request for the time is answered with the clock that the trail has come to. -/
theorem Trail.systemTime {server : Responder} {s t : Environment} {before later : List Event}
    {v : Value} {left : Aftermath}
    (h : Trail server s (before ++ .asked .systemTime v left :: later) t) :
    ∃ clock, s.clock.add? (s.tick.times (before.countP Event.isTick)) = some clock ∧
      v = .instant clock := by
  obtain ⟨u, walked, rest⟩ := h.split
  cases rest with
  | cons step _ =>
    cases step with
    | asked _ answers => exact ⟨u.clock, walked.clock.2, answers⟩

/-- A run that puts no other environment in place moves the clock by one tick for each of its steps,
and every request for the time is answered with the start and the ticks before it. -/
theorem Program.simulate_clock (server : Responder) (p : Program) (s : Environment) (v : Value)
    (after : Aftermath) (keeps : p.All Request.KeepsEnvironment)
    (h : p.simulate server s = .ok (v, after)) :
    ∃ t events, after = .environment t ∧ p.trace server s = .ok ⟨v, after, events⟩ ∧
      t.tick = s.tick ∧
      s.clock.add? (s.tick.times (p.steps server s)) = some t.clock ∧
      events.countP Event.isTick = p.steps server s ∧
      ∀ before answer left later, events = before ++ .asked .systemTime answer left :: later →
        ∃ clock, s.clock.add? (s.tick.times (before.countP Event.isTick)) = some clock ∧
          answer = .instant clock := by
  obtain ⟨events, traced⟩ := Program.trace_of_simulate h
  obtain ⟨t, ht, _, walked⟩ := p.trace_walks keeps traced
  have counted : events.countP Event.isTick = p.steps server s := p.trace_ticks traced
  refine ⟨t, events, ht, traced, walked.clock.1, ?_, counted, ?_⟩
  · rw [← counted]
    exact walked.clock.2
  · rintro before answer left later rfl
    exact walked.systemTime

/-- Asks for the time under a label, after a body that yields twice. -/
def waiting : Program :=
  .bind (.body (.ofList .none [.pure .none, .ask (.flush (.handle .stdout))])) fun _ =>
    .nest (.text "late") (.attempt (.ask .systemTime) .general)

theorem waiting_clock :
    waiting.All Request.KeepsEnvironment ∧ waiting.steps .unreachable .fresh = 3 ∧
      ∃ v after, waiting.simulate .unreachable .fresh = .ok (v, after) ∧
        ∃ t, after = .environment t ∧
          Environment.fresh.clock.add? (Environment.fresh.tick.times 3) = some t.clock := by
  have keeps : waiting.All Request.KeepsEnvironment := by
    simp [waiting, Program.All, Body.ofList, Body.All, Request.KeepsEnvironment]
  have counted : waiting.steps .unreachable .fresh = 3 := rfl
  have returns : ∃ result, waiting.simulate .unreachable .fresh = .ok result := ⟨_, rfl⟩
  obtain ⟨⟨v, after⟩, h⟩ := returns
  obtain ⟨t, _, ht, _, _, moved, _⟩ := Program.simulate_clock _ _ _ v after keeps h
  rw [counted] at moved
  exact ⟨keeps, counted, v, after, h, t, ht, moved⟩

end Rehearsal
