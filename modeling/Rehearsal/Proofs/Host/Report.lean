import Rehearsal.Proofs.Host.Frame
import Rehearsal.Proofs.Run.Step

/-!
# Reports of runs on a host

A reported run goes the way of a run on a host and writes down what it does: every request with the
context that it is carried out in and what it comes to, and the labels that are opened and closed.
An error closes the labels that it passes. Leaving the events out gives the run on the host back,
and the assertions that it adds are those of the requests that record one.
-/

namespace Rehearsal

namespace Host

variable {σ : Type}

inductive Event where
  | performed (context : List Value) (request : Request) (outcome : Outcome Value)
  | opened (name : Value)
  /-- A label was left, with a value or with an error. -/
  | closed

@[simp]
def Event.recorded : Event → List Assertion
  | .performed _ r _ => r.recorded
  | _ => []

structure Report (σ : Type) where
  step : Outcome Value × Host σ
  events : List Event

namespace Report

/-- Goes on with the value of a step, or stops with its error. -/
def andThen (first : Report σ) (next : Value → Host σ → Report σ) : Report σ :=
  match first.step with
  | (.ok v, h) => { next v h with events := first.events ++ (next v h).events }
  | (.error e, h) => ⟨(.error e, h), first.events⟩

/-- A run under a label. -/
def under (name : Value) (r : Report σ) : Report σ :=
  { r with events := .opened name :: (r.events ++ [.closed]) }

theorem andThen_step (first : Report σ) (next : Value → Host σ → Report σ) :
    (first.andThen next).step = Host.andThen first.step fun v h => (next v h).step := by
  obtain ⟨⟨_ | _, _⟩, _⟩ := first <;> rfl

/-- Every report of a second step begins with the events of the first. -/
theorem andThen_events (first : Report σ) (next : Value → Host σ → Report σ) :
    ((∃ e, first.step.1 = .error e) ∧ (first.andThen next).events = first.events) ∨
      ∃ v, first.step.1 = .ok v ∧
        (first.andThen next).events = first.events ++ (next v first.step.2).events := by
  obtain ⟨⟨e | v, h⟩, events⟩ := first
  · exact Or.inl ⟨⟨e, rfl⟩, rfl⟩
  · exact Or.inr ⟨v, rfl, rfl⟩

/-- The assertions of a host are those that it had before and those that the events record. -/
def Balances (h : Host σ) (r : Report σ) : Prop :=
  r.step.2.assertions = h.assertions ++ r.events.flatMap Event.recorded

theorem Balances.andThen {h : Host σ} {first : Report σ} {next : Value → Host σ → Report σ}
    (hf : first.Balances h) (hn : ∀ v, (next v first.step.2).Balances first.step.2) :
    (first.andThen next).Balances h := by
  obtain ⟨⟨_ | v, left⟩, events⟩ := first
  · exact hf
  · have second := hn v
    simp only [Balances] at hf second ⊢
    simp only [Report.andThen, second, hf, List.flatMap_append, List.append_assoc]

theorem Balances.under {h : Host σ} {r : Report σ} (name : Value) (hr : r.Balances h) :
    (r.under name).Balances h := by
  simpa [Balances, Report.under] using hr

end Report

/-! ## Assertions of a host -/

@[simp]
theorem setStream_assertions (name : String) (s : Stream) (h : Host σ) :
    (h.setStream name s).assertions = h.assertions := by
  unfold setStream
  split
  · rfl
  · split
    · rfl
    · split <;> rfl

theorem clientFor_assertions (session : Value) (h : Host σ) :
    (h.clientFor session).2.assertions = h.assertions := by
  cases session with
  | none =>
    change h.ownClient.2.assertions = _
    unfold ownClient
    split <;> rfl
  | _ => rfl

theorem assertions_frame (noted : List Assertion) :
    Frame fun h : Host σ => h.assertions = noted where
  world _ hp := hp
  stream name s hp := (setStream_assertions name s _).trans hp
  echo _ _ hp := hp
  cookies _ _ hp := hp

end Host

/-- A request adds to the assertions of a host what it records, whatever it comes to. -/
theorem Request.perform_assertions {σ : Type} (m : Machine σ) (context : List Value)
    (r : Request) (h : Host σ) :
    (r.perform m context h).2.assertions = h.assertions ++ r.recorded := by
  by_cases records : ∃ a, r = .record a
  · obtain ⟨a, rfl⟩ := records
    rfl
  · have silent : r.recorded = [] := by
      cases r with
      | record a => exact absurd ⟨a, rfl⟩ records
      | _ => rfl
    rw [silent, List.append_nil]
    refine Request.perform_keeps (Host.assertions_frame h.assertions) m context r rfl
      ?own ?made ?noted
    case own => exact fun _ session _ => h.clientFor_assertions session
    case made => exact fun _ => rfl
    case noted => exact fun a same => absurd ⟨a, same⟩ records

mutual

def Program.report {σ : Type} (m : Machine σ) :
    Program → List Value → Host σ → Host.Report σ
  | .pure v, _, h => ⟨(.ok v, h), []⟩
  | .fail e, _, h => ⟨(.error e, h), []⟩
  | .ask r, context, h => ⟨r.perform m context h, [.performed context r (r.perform m context h).1]⟩
  | .bind p next, context, h =>
    (p.report m context h).andThen fun v h => (next v).report m context h
  | .map p change, context, h =>
    let r := p.report m context h
    { r with step := Host.andThen r.step fun v h => (change v, h) }
  | .body b, context, h => b.report m context h
  | .attempt p kind, context, h =>
    let r := p.report m context h
    { r with step := Host.attempted kind r.step }
  | .nest name p, context, h => (p.report m (context ++ [name]) h).under name

def Body.report {σ : Type} (m : Machine σ) : Body → List Value → Host σ → Host.Report σ
  | .done v, _, h => ⟨(.ok v, h), []⟩
  | .raise e, _, h => ⟨(.error e, h), []⟩
  | .yield p next, context, h =>
    (p.report m context h).andThen fun v h => (next v).report m context h

end

mutual

/-- Writing the events down changes neither the outcome of a run nor the host it leaves. -/
theorem Program.report_step {σ : Type} (m : Machine σ) :
    ∀ (p : Program) (context : List Value) (h : Host σ),
      (p.report m context h).step = p.perform m context h
  | .pure v, context, h => rfl
  | .fail e, context, h => rfl
  | .ask r, context, h => rfl
  | .bind p next, context, h => by
    simp only [Program.report, Program.perform, Host.Report.andThen_step,
      Program.report_step m p, fun v => Program.report_step m (next v)]
  | .map p change, context, h => by
    simp only [Program.report, Program.perform, Program.report_step m p]
  | .body b, context, h => Body.report_step m b context h
  | .attempt p kind, context, h => by
    simp only [Program.report, Program.perform, Program.report_step m p]
  | .nest name p, context, h => Program.report_step m p (context ++ [name]) h

theorem Body.report_step {σ : Type} (m : Machine σ) :
    ∀ (b : Body) (context : List Value) (h : Host σ),
      (b.report m context h).step = b.perform m context h
  | .done v, context, h => rfl
  | .raise e, context, h => rfl
  | .yield p next, context, h => by
    simp only [Body.report, Body.perform, Host.Report.andThen_step,
      Program.report_step m p, fun v => Body.report_step m (next v)]

end

theorem Host.andThen_change_host {σ : Type} (step : Outcome Value × Host σ)
    (change : Value → Outcome Value) :
    (Host.andThen step fun v h => (change v, h)).2 = step.2 := by
  obtain ⟨_ | _, _⟩ := step <;> rfl

theorem Host.attempted_host {σ : Type} (kind : FaultKind) (step : Outcome Value × Host σ) :
    (Host.attempted kind step).2 = step.2 := by
  unfold Host.attempted
  split
  · rfl
  · split <;> rfl
  · rfl

mutual

/-- The assertions that a run adds are the recorded ones, in order, whether it returns a value or
stops with an error. -/
theorem Program.report_balances {σ : Type} (m : Machine σ) :
    ∀ (p : Program) (context : List Value) (h : Host σ), (p.report m context h).Balances h
  | .pure _, _, _ => (List.append_nil _).symm
  | .fail _, _, _ => (List.append_nil _).symm
  | .ask r, context, h => by
    simpa [Host.Report.Balances, Program.report] using r.perform_assertions m context h
  | .bind p next, context, h =>
    (p.report_balances m context h).andThen fun v => (next v).report_balances m context _
  | .map p change, context, h =>
    (congrArg Host.assertions (Host.andThen_change_host _ change)).trans
      (p.report_balances m context h)
  | .body b, context, h => b.report_balances m context h
  | .attempt p kind, context, h =>
    (congrArg Host.assertions (Host.attempted_host kind _)).trans (p.report_balances m context h)
  | .nest name p, context, h => (p.report_balances m (context ++ [name]) h).under name

theorem Body.report_balances {σ : Type} (m : Machine σ) :
    ∀ (b : Body) (context : List Value) (h : Host σ), (b.report m context h).Balances h
  | .done _, _, _ => (List.append_nil _).symm
  | .raise _, _, _ => (List.append_nil _).symm
  | .yield p next, context, h =>
    (p.report_balances m context h).andThen fun v => (next v).report_balances m context _

end

end Rehearsal
