import Rehearsal.Host.Run
import Rehearsal.Simulated.Run

/-!
# Bodies as chains of binds

A coroutine yields operands of any kind and goes on with the values sent back. It can be driven as
a body, which ticks before it resumes, or unfolded into binds, which come to the next computation
before they tick. Simulated runs of the two give the same value and leave the same behind, and one
stops with an error exactly where the other one does, though not always with the same error. Runs
on a host are equal, errors and all.
-/

namespace Rehearsal

/-- What an effectful body does, whatever is sent back to it. -/
inductive Coroutine where
  | done (value : Value)
  | raise (error : Error)
  | yield (operand : Operand) (next : Value → Coroutine)

/-- The program of an operand; one that cannot be run stands for a program that stops with the
reason. -/
def Operand.orRefusing (i : Interpreter) (o : Operand) : Program :=
  match o.require i with
  | .ok p => p
  | .error e => .body (.raise e)

namespace Coroutine

/-- The body that drives a coroutine. -/
def body (i : Interpreter) : Coroutine → Body
  | done v => .done v
  | raise e => .raise e
  | yield o next => .yieldOperand i o fun v => (next v).body i

/-- The coroutine as a chain of binds. An error in place of the next operand is a continuation that
came to no computation. -/
def chain (i : Interpreter) : Coroutine → Program
  | done v => .pure v
  | raise e => .fail e
  | yield o next => .bind (o.orRefusing i) fun v => (next v).chain i

/-- The coroutine of a body, which yields programs only. -/
def ofBody : Body → Coroutine
  | .done v => done v
  | .raise e => raise e
  | .yield p next => yield (.program p) fun v => ofBody (next v)

/-- Every body is driven by a coroutine. -/
theorem body_ofBody (i : Interpreter) : ∀ b : Body, (ofBody b).body i = b
  | .done v => rfl
  | .raise e => rfl
  | .yield p next => by
    have hn : (fun v => (ofBody (next v)).body i) = next :=
      funext fun v => body_ofBody i (next v)
    simp only [ofBody, body, Body.yieldOperand, Operand.require, hn]

/-- Only a coroutine that stops at once unfolds into no computation. -/
theorem chain_refusal (i : Interpreter) (c : Coroutine) :
    (∃ e, c = raise e) ∨ (c.chain i).refusal? = none := by
  cases c with
  | done v => exact Or.inr rfl
  | raise e => exact Or.inl ⟨e, rfl⟩
  | yield o next => exact Or.inr rfl

/-- Two runs that leave out which error it was. -/
def Agree {α : Type} (x y : Outcome α) : Prop := x.toOption = y.toOption

theorem agree_of_errors {α : Type} {x y : Outcome α} (hx : ∃ e, x = .error e)
    (hy : ∃ e, y = .error e) : Agree x y := by
  obtain ⟨d, rfl⟩ := hx
  obtain ⟨e, rfl⟩ := hy
  rfl

theorem ok_iff_of_agree {α : Type} {x y : Outcome α} (h : Agree x y) (a : α) :
    x = .ok a ↔ y = .ok a := by
  cases x <;> cases y <;> simp_all [Agree, Except.toOption]

theorem error_iff_of_agree {α : Type} {x y : Outcome α} (h : Agree x y) :
    (∃ e, x = .error e) ↔ ∃ e, y = .error e := by
  cases x <;> cases y <;> simp_all [Agree, Except.toOption]

/-- After a yield the body ticks and resumes; the chain comes to its next computation and ticks. -/
theorem resumed_agree {server : Responder} {c : Coroutine} {after : Aftermath}
    (h : ∀ e, Agree ((c.body .simulated).simulate server e)
      ((c.chain .simulated).simulate server e)) :
    Agree (do (c.body .simulated).simulate server (← (← after.require "advance").advance))
      (do (c.chain .simulated).simulate server (← (c.chain .simulated).enter after)) := by
  rcases chain_refusal .simulated c with ⟨e, rfl⟩ | hr
  · refine agree_of_errors ?_ ⟨e, rfl⟩
    cases hl : after.require "advance" with
    | error d => exact ⟨d, by simp [bind, Except.bind]⟩
    | ok left =>
      cases ha : left.advance with
      | error d => exact ⟨d, by simp [bind, Except.bind, ha]⟩
      | ok resumed => exact ⟨e, by simp [bind, Except.bind, ha, body, Body.simulate]⟩
  · simp only [Program.enter, hr]
    cases after.require "advance" with
    | error d => rfl
    | ok left =>
      cases ha : left.advance with
      | error d => simp [bind, Except.bind, ha, Agree]
      | ok resumed => simpa [bind, Except.bind, ha] using h resumed

/-- By induction on the coroutine: what it yields first runs alike on both sides. -/
theorem simulate_agree (server : Responder) (c : Coroutine) :
    ∀ e, Agree ((c.body .simulated).simulate server e)
      ((c.chain .simulated).simulate server e) := by
  induction c with
  | done v => exact fun e => rfl
  | raise error => exact fun e => rfl
  | yield o next ih =>
    intro e
    simp only [body, chain, Body.yieldOperand, Operand.orRefusing]
    cases ho : o.require .simulated with
    | error d => rfl
    | ok p =>
      simp only [Body.simulate, Program.simulate]
      cases hp : p.simulate server e with
      | error d => rfl
      | ok result => exact resumed_agree (ih result.1)

theorem perform_eq {σ : Type} (m : Machine σ) (c : Coroutine) :
    ∀ context h, (c.body .host).perform m context h = (c.chain .host).perform m context h := by
  induction c with
  | done v => exact fun context h => rfl
  | raise error => exact fun context h => rfl
  | yield o next ih =>
    intro context h
    simp only [body, chain, Body.yieldOperand, Operand.orRefusing]
    cases ho : o.require .host with
    | error d => rfl
    | ok p =>
      simp only [Body.perform, Program.perform]
      congr 1
      funext v h
      exact ih v context h

/-- Driving a coroutine as a body is running the chain of binds that it unfolds into. -/
theorem body_runs_as_chain (c : Coroutine) :
    (∀ server e v after,
      (Program.body (c.body .simulated)).simulate server e = .ok (v, after) ↔
        (c.chain .simulated).simulate server e = .ok (v, after)) ∧
    (∀ server e,
      (∃ error, (Program.body (c.body .simulated)).simulate server e = .error error) ↔
        ∃ error, (c.chain .simulated).simulate server e = .error error) ∧
    (∀ (σ : Type) (m : Machine σ) (context : List Value) (h : Host σ),
      (Program.body (c.body .host)).perform m context h = (c.chain .host).perform m context h) := by
  refine ⟨fun server e v after => ?_, fun server e => ?_, fun σ m context h => ?_⟩
  · exact ok_iff_of_agree (simulate_agree server c e) (v, after)
  · exact error_iff_of_agree (simulate_agree server c e)
  · exact perform_eq m c context h

end Coroutine

end Rehearsal
