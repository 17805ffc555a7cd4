import Rehearsal.Simulated.Run

/-!
# Traces of simulated runs

A traced run goes the way of a simulated run and writes down what it executes: every request with
its answer and what it left behind, every tick, and the labels that are opened and closed. Leaving
the events out gives the simulated run back, with the same error where there is one. The inversion
lemmas say once, for each form of a program, what a run of it consists of.
-/

namespace Rehearsal

namespace Outcome

theorem bind_eq_ok {α β : Type} {x : Outcome α} {f : α → Outcome β} {b : β} :
    x >>= f = .ok b ↔ ∃ a, x = .ok a ∧ f a = .ok b := by
  cases x <;> simp [bind, Except.bind]

theorem map_eq_ok {α β : Type} {x : Outcome α} {f : α → β} {b : β} :
    x.map f = .ok b ↔ ∃ a, x = .ok a ∧ f a = b := by
  cases x <;> simp [Except.map]

theorem pure_eq_ok {α : Type} {a b : α} : (pure a : Outcome α) = .ok b ↔ a = b := by
  simp [pure, Except.pure]

/-- Outcomes with one image are one error or two results that agree. -/
theorem map_eq_map {α β γ : Type} {x : Outcome α} {y : Outcome β} {f : α → γ} {g : β → γ}
    (h : x.map f = y.map g) :
    (∃ e, x = .error e ∧ y = .error e) ∨ ∃ a b, x = .ok a ∧ y = .ok b ∧ f a = g b := by
  cases x <;> cases y <;> simp_all [Except.map]

end Outcome

namespace Aftermath

theorem require_ok {part : String} {after : Aftermath} {e : Environment} :
    after.require part = .ok e ↔ after = .environment e := by
  cases after <;> simp [require]

theorem withContext_ok {context : List Value} {after left : Aftermath} :
    after.withContext context = .ok left ↔
      ∃ e, after = .environment e ∧ left = .environment { e with context } := by
  cases after <;> simp [withContext, eq_comm]

end Aftermath

theorem Program.enter_ok {p : Program} {after : Aftermath} {t : Environment} :
    p.enter after = .ok t ↔
      p.refusal? = none ∧ ∃ e, after = .environment e ∧ e.advance = .ok t := by
  unfold Program.enter
  cases p.refusal? with
  | some error => simp
  | none => simp [Outcome.bind_eq_ok, Aftermath.require_ok]

/-- What a run executes, one event after the other. -/
inductive Event where
  | asked (request : Request) (value : Value) (left : Aftermath)
  /-- A step of a sequence took its tick of the clock. -/
  | ticked
  | opened (name : Value)
  /-- A label was closed, with the context in force from then on. -/
  | closed (context : List Value)

namespace Event

def isTick : Event → Bool
  | .ticked => true
  | _ => false

end Event

structure Run where
  value : Value
  left : Aftermath
  events : List Event

namespace Run

/-- The run without its events. -/
def result (r : Run) : Value × Aftermath := (r.value, r.left)

/-- A step of a sequence, then the rest of it. -/
def andThen (first second : Run) : Run :=
  { second with events := first.events ++ .ticked :: second.events }

/-- A run under a label. -/
def under (name : Value) (context : List Value) (left : Aftermath) (r : Run) : Run :=
  ⟨r.value, left, .opened name :: (r.events ++ [.closed context])⟩

/-- How many ticks the run took. -/
def ticks (r : Run) : Nat := r.events.countP Event.isTick

def totalTicks : List Run → Nat
  | [] => 0
  | r :: rest => r.ticks + totalTicks rest

theorem totalTicks_append (runs more : List Run) :
    totalTicks (runs ++ more) = totalTicks runs + totalTicks more := by
  induction runs with
  | nil => rw [List.nil_append, totalTicks, Nat.zero_add]
  | cons r rest ih => rw [List.cons_append, totalTicks, ih, totalTicks, Nat.add_assoc]

/-- What a run comes to, with the number of its ticks. -/
def tally (r : Run) : Value × Aftermath × Nat := (r.value, r.left, r.ticks)

theorem ticks_andThen (first second : Run) :
    (first.andThen second).ticks = first.ticks + 1 + second.ticks := by
  have tick : Event.isTick .ticked = true := rfl
  rw [ticks, andThen, List.countP_append, List.countP_cons_of_pos tick, ticks, ticks]
  omega

theorem ticks_under (name : Value) (context : List Value) (left : Aftermath) (r : Run) :
    (r.under name context left).ticks = r.ticks := by
  have opened : ¬ Event.isTick (.opened name) = true := by simp [Event.isTick]
  have closed : ¬ Event.isTick (.closed context) = true := by simp [Event.isTick]
  rw [ticks, under, List.countP_cons_of_neg opened, List.countP_append,
    List.countP_cons_of_neg closed, List.countP_nil, Nat.add_zero, ticks]

end Run

mutual

def Program.trace (server : Responder) : Program → Environment → Outcome Run
  | .pure v, e => .ok ⟨v, .environment e, []⟩
  | .fail error, _ => .error error
  | .ask r, e => do
    let (v, left) ← r.simulate server e
    return ⟨v, left, [.asked r v left]⟩
  | .bind p next, e => do
    let first ← p.trace server e
    let entered ← (next first.value).enter first.left
    let second ← (next first.value).trace server entered
    return first.andThen second
  | .map p change, e => do
    let run ← p.trace server e
    return { run with value := ← change run.value }
  | .body b, e => b.trace server e
  | .attempt p kind, e => do
    let run ← p.trace server e
    let left ← run.left.require "captured_fault"
    return { run with value := left.attempted kind run.value }
  | .nest name p, e => do
    let run ← p.trace server { e with context := e.context ++ [name] }
    return run.under name e.context (← run.left.withContext e.context)

def Body.trace (server : Responder) : Body → Environment → Outcome Run
  | .done v, e => .ok ⟨v, .environment e, []⟩
  | .raise error, _ => .error error
  | .yield p next, e => do
    let first ← p.trace server e
    let resumed ← (← first.left.require "advance").advance
    let second ← (next first.value).trace server resumed
    return first.andThen second

end

section Inversion

variable {server : Responder} {p : Program} {e : Environment} {run : Run}

theorem Program.trace_ask_ok {r : Request} (h : (Program.ask r).trace server e = .ok run) :
    ∃ v left, r.simulate server e = .ok (v, left) ∧ run = ⟨v, left, [.asked r v left]⟩ := by
  simp only [Program.trace, Outcome.bind_eq_ok, Outcome.pure_eq_ok] at h
  obtain ⟨⟨v, left⟩, hr, rfl⟩ := h
  exact ⟨v, left, hr, rfl⟩

theorem Program.trace_bind_ok {next : Value → Program}
    (h : (Program.bind p next).trace server e = .ok run) :
    ∃ first entered second, p.trace server e = .ok first ∧
      (next first.value).enter first.left = .ok entered ∧
      (next first.value).trace server entered = .ok second ∧ run = first.andThen second := by
  simp only [Program.trace, Outcome.bind_eq_ok, Outcome.pure_eq_ok] at h
  obtain ⟨first, hf, entered, he, second, hs, rfl⟩ := h
  exact ⟨first, entered, second, hf, he, hs, rfl⟩

theorem Program.trace_map_ok {change : Value → Outcome Value}
    (h : (Program.map p change).trace server e = .ok run) :
    ∃ inner v, p.trace server e = .ok inner ∧ change inner.value = .ok v ∧
      run = { inner with value := v } := by
  simp only [Program.trace, Outcome.bind_eq_ok, Outcome.pure_eq_ok] at h
  obtain ⟨inner, hi, v, hv, rfl⟩ := h
  exact ⟨inner, v, hi, hv, rfl⟩

theorem Program.trace_attempt_ok {kind : FaultKind}
    (h : (Program.attempt p kind).trace server e = .ok run) :
    ∃ inner left, p.trace server e = .ok inner ∧ inner.left = .environment left ∧
      run = { inner with value := left.attempted kind inner.value } := by
  simp only [Program.trace, Outcome.bind_eq_ok, Outcome.pure_eq_ok, Aftermath.require_ok] at h
  obtain ⟨inner, hi, left, hl, rfl⟩ := h
  exact ⟨inner, left, hi, hl, rfl⟩

theorem Program.trace_nest_ok {name : Value}
    (h : (Program.nest name p).trace server e = .ok run) :
    ∃ inner left, p.trace server { e with context := e.context ++ [name] } = .ok inner ∧
      inner.left = .environment left ∧
      run = inner.under name e.context (.environment { left with context := e.context }) := by
  simp only [Program.trace, Outcome.bind_eq_ok, Outcome.pure_eq_ok, Aftermath.withContext_ok] at h
  obtain ⟨inner, hi, after, ⟨left, hl, rfl⟩, rfl⟩ := h
  exact ⟨inner, left, hi, hl, rfl⟩

theorem Body.trace_yield_ok {next : Value → Body}
    (h : (Body.yield p next).trace server e = .ok run) :
    ∃ first left resumed second, p.trace server e = .ok first ∧
      first.left = .environment left ∧ left.advance = .ok resumed ∧
      (next first.value).trace server resumed = .ok second ∧ run = first.andThen second := by
  simp only [Body.trace, Outcome.bind_eq_ok, Outcome.pure_eq_ok, Aftermath.require_ok] at h
  obtain ⟨first, hf, left, hl, resumed, hr, second, hs, rfl⟩ := h
  exact ⟨first, left, resumed, second, hf, hl, hr, hs, rfl⟩

end Inversion

/-- Traces the run of an operand, which has to be a simulated computation. -/
def Operand.trace (server : Responder) (o : Operand) (e : Environment) : Outcome Run := do
  let p ← o.require .simulated
  p.trace server e

mutual

/-- Writing the events down changes neither the outcome of a run nor its error. -/
theorem Program.trace_result (server : Responder) :
    ∀ (p : Program) (e : Environment), (p.trace server e).map Run.result = p.simulate server e
  | .pure v, e => rfl
  | .fail error, e => rfl
  | .ask r, e => by
    simp only [Program.trace, Program.simulate]
    cases r.simulate server e <;> rfl
  | .bind p next, e => by
    simp only [Program.trace, Program.simulate]
    rw [← Program.trace_result server p e]
    cases p.trace server e with
    | error => rfl
    | ok first =>
      simp only [Except.map, bind, Except.bind, Run.result]
      cases (next first.value).enter first.left with
      | error => rfl
      | ok entered =>
        simp only [← Program.trace_result server (next first.value) entered]
        cases (next first.value).trace server entered <;> rfl
  | .map p change, e => by
    simp only [Program.trace, Program.simulate]
    rw [← Program.trace_result server p e]
    cases p.trace server e with
    | error => rfl
    | ok run =>
      simp only [Except.map, bind, Except.bind, Run.result]
      cases change run.value <;> rfl
  | .body b, e => by
    simp only [Program.trace, Program.simulate]
    exact Body.trace_result server b e
  | .attempt p kind, e => by
    simp only [Program.trace, Program.simulate]
    rw [← Program.trace_result server p e]
    cases p.trace server e with
    | error => rfl
    | ok run =>
      simp only [Except.map, bind, Except.bind, Run.result]
      cases run.left.require "captured_fault" <;> rfl
  | .nest name p, e => by
    simp only [Program.trace, Program.simulate]
    rw [← Program.trace_result server p]
    cases p.trace server { e with context := e.context ++ [name] } with
    | error => rfl
    | ok run =>
      simp only [Except.map, bind, Except.bind, Run.result]
      cases run.left.withContext e.context <;> rfl

theorem Body.trace_result (server : Responder) :
    ∀ (b : Body) (e : Environment), (b.trace server e).map Run.result = b.simulate server e
  | .done v, e => rfl
  | .raise error, e => rfl
  | .yield p next, e => by
    simp only [Body.trace, Body.simulate]
    rw [← Program.trace_result server p e]
    cases p.trace server e with
    | error => rfl
    | ok first =>
      simp only [Except.map, bind, Except.bind, Run.result]
      cases first.left.require "advance" with
      | error => rfl
      | ok left =>
        dsimp only
        cases left.advance with
        | error => rfl
        | ok resumed =>
          simp only [← Body.trace_result server (next first.value) resumed]
          cases (next first.value).trace server resumed <;> rfl

end

/-- A run that was traced came to its value and left what it left. -/
theorem Program.simulate_of_trace {server : Responder} {p : Program} {e : Environment} {run : Run}
    (h : p.trace server e = .ok run) : p.simulate server e = .ok (run.value, run.left) := by
  rw [← p.trace_result server e, h]
  rfl

/-- A run that returned can be traced. -/
theorem Program.trace_of_simulate {server : Responder} {p : Program} {e : Environment} {v : Value}
    {after : Aftermath} (h : p.simulate server e = .ok (v, after)) :
    ∃ events, p.trace server e = .ok ⟨v, after, events⟩ := by
  rw [← p.trace_result server e, Outcome.map_eq_ok] at h
  obtain ⟨⟨value, left, events⟩, traced, hr⟩ := h
  cases hr
  exact ⟨events, traced⟩

theorem Operand.trace_result (server : Responder) (o : Operand) (e : Environment) :
    (o.trace server e).map Run.result = o.simulate server e := by
  unfold Operand.trace Operand.simulate
  cases o.require .simulated with
  | error => rfl
  | ok p => exact p.trace_result server e

end Rehearsal
