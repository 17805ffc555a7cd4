import Rehearsal.Proofs.Host.Report

/-!
# Turns of a host

A host outlives its runs. Those who have one run operands on it and close it, in any order, and
each of these turns falls into acts: a run begins, requests are carried out one after the other, the
clients are released. The acts of turns tell all that happens to the host: from one act to the next
it is the same host, and what a request came to is what it comes to there.
-/

namespace Rehearsal

namespace Host

variable {σ : Type}

inductive Turn where
  | run (o : Operand) (context : List Value)
  | close

def Turn.take (m : Machine σ) : Turn → Host σ → Host σ
  | .run o context, h => (o.perform m context h).2
  | .close, h => h.close

inductive Act where
  | began
  | performed (context : List Value) (request : Request) (outcome : Outcome Value)
  | released

def Act.apply (m : Machine σ) : Act → Host σ → Host σ
  | .began, h => { h with assertions := [] }
  | .performed context r _, h => (r.perform m context h).2
  | .released, h => h.close

/-- The host that acts leave. -/
def after (m : Machine σ) (acts : List Act) (h : Host σ) : Host σ :=
  acts.foldl (fun h act => act.apply m h) h

/-- What is said of a request is what it comes to at the host where it is carried out. -/
def Told (m : Machine σ) : List Act → Host σ → Prop
  | [], _ => True
  | .performed context r outcome :: rest, h =>
    outcome = (r.perform m context h).1 ∧ Told m rest (r.perform m context h).2
  | act :: rest, h => Told m rest (act.apply m h)

@[simp]
theorem after_nil (m : Machine σ) (h : Host σ) : after m [] h = h := rfl

@[simp]
theorem after_cons (m : Machine σ) (act : Act) (acts : List Act) (h : Host σ) :
    after m (act :: acts) h = after m acts (act.apply m h) := rfl

theorem after_append (m : Machine σ) (first second : List Act) (h : Host σ) :
    after m (first ++ second) h = after m second (after m first h) := List.foldl_append

theorem told_append (m : Machine σ) (first second : List Act) (h : Host σ) :
    Told m (first ++ second) h ↔ Told m first h ∧ Told m second (after m first h) := by
  induction first generalizing h with
  | nil => simp [Told]
  | cons act rest ih => cases act <;> simp [Told, ih, Act.apply, and_assoc]

theorem Told.outcome {m : Machine σ} {before rest : List Act} {context : List Value} {r : Request}
    {outcome : Outcome Value} {h : Host σ}
    (told : Told m (before ++ .performed context r outcome :: rest) h) :
    outcome = (r.perform m context (after m before h)).1 :=
  ((told_append m before _ h).mp told).2.1

/-! ## Reports -/

def Event.act? : Event → Option Act
  | .performed context r outcome => some (.performed context r outcome)
  | _ => none

namespace Report

def acts (r : Report σ) : List Act := r.events.filterMap Event.act?

/-- The acts of a report lead from the host where the run began to the one that it left. -/
structure Leads (m : Machine σ) (h : Host σ) (r : Report σ) : Prop where
  left : after m r.acts h = r.step.2
  told : Told m r.acts h

variable {m : Machine σ} {h : Host σ}

theorem leads_nil (outcome : Outcome Value) : Leads m h ⟨(outcome, h), []⟩ := ⟨rfl, trivial⟩

theorem Leads.andThen {first : Report σ} {next : Value → Host σ → Report σ}
    (hf : first.Leads m h) (hn : ∀ v, (next v first.step.2).Leads m first.step.2) :
    (first.andThen next).Leads m h := by
  obtain ⟨⟨_ | v, left⟩, events⟩ := first
  · exact hf
  · obtain ⟨reached, told⟩ := hf
    have second := hn v
    have acts : (Report.andThen ⟨(.ok v, left), events⟩ next).acts =
        Report.acts ⟨(.ok v, left), events⟩ ++ (next v left).acts := List.filterMap_append
    constructor
    · rw [acts, after_append, reached]
      exact second.left
    · rw [acts, told_append, reached]
      exact ⟨told, second.told⟩

theorem Leads.under {r : Report σ} (name : Value) (hr : r.Leads m h) :
    (r.under name).Leads m h := by
  have acts : (r.under name).acts = r.acts := by
    rw [Report.under, Report.acts, List.filterMap_cons_none rfl, List.filterMap_append]
    exact List.append_nil _
  exact ⟨acts ▸ hr.left, acts ▸ hr.told⟩

/-- What becomes of the outcome of a run does not bear on its acts. -/
theorem Leads.step {r : Report σ} (hr : r.Leads m h) {step : Outcome Value × Host σ}
    (same : step.2 = r.step.2) : Leads m h { r with step } :=
  ⟨hr.left.trans same.symm, hr.told⟩

end Report

end Host

open Host in
mutual

theorem Program.report_leads {σ : Type} (m : Machine σ) :
    ∀ (p : Program) (context : List Value) (h : Host σ), (p.report m context h).Leads m h
  | .pure _, _, _ => Report.leads_nil _
  | .fail _, _, _ => Report.leads_nil _
  | .ask _, _, _ => ⟨rfl, rfl, trivial⟩
  | .bind p next, context, h =>
    (p.report_leads m context h).andThen fun v => (next v).report_leads m context _
  | .map p change, context, h => (p.report_leads m context h).step (andThen_change_host _ change)
  | .body b, context, h => b.report_leads m context h
  | .attempt p kind, context, h => (p.report_leads m context h).step (attempted_host kind _)
  | .nest name p, context, h => (p.report_leads m (context ++ [name]) h).under name

theorem Body.report_leads {σ : Type} (m : Machine σ) :
    ∀ (b : Body) (context : List Value) (h : Host σ), (b.report m context h).Leads m h
  | .done _, _, _ => Report.leads_nil _
  | .raise _, _, _ => Report.leads_nil _
  | .yield p next, context, h =>
    (p.report_leads m context h).andThen fun v => (next v).report_leads m context _

end

namespace Host

variable {σ : Type}

def Turn.acts (m : Machine σ) : Turn → Host σ → List Act
  | .run o context, h =>
    match o.require .host with
    | .ok p => .began :: (p.report m context { h with assertions := [] }).acts
    | .error _ => [.began]
  | .close, _ => [.released]

/-- The acts of turns. -/
def acts (m : Machine σ) : List Turn → Host σ → List Act
  | [], _ => []
  | turn :: rest, h => turn.acts m h ++ acts m rest (turn.take m h)

/-- The host that turns leave. -/
def taken (m : Machine σ) (turns : List Turn) (h : Host σ) : Host σ :=
  turns.foldl (fun h turn => turn.take m h) h

theorem Turn.acts_lead (m : Machine σ) (turn : Turn) (h : Host σ) :
    after m (turn.acts m h) h = turn.take m h ∧ Told m (turn.acts m h) h := by
  cases turn with
  | close => exact ⟨rfl, trivial⟩
  | run o context =>
    simp only [Turn.acts, Turn.take, Operand.perform]
    cases o.require .host with
    | error e => exact ⟨rfl, trivial⟩
    | ok p =>
      have led := p.report_leads m context { h with assertions := [] }
      have same := p.report_step m context { h with assertions := [] }
      exact ⟨led.left.trans (congrArg Prod.snd same), led.told⟩

/-- What the runs among turns come to. -/
def outcomes (m : Machine σ) : List Turn → Host σ → List (Outcome Value)
  | [], _ => []
  | .run o context :: rest, h =>
    (o.perform m context h).1 :: outcomes m rest (o.perform m context h).2
  | .close :: rest, h => outcomes m rest h.close

/-- The acts of turns lead to the host that the turns leave. -/
theorem acts_lead (m : Machine σ) (turns : List Turn) (h : Host σ) :
    after m (acts m turns h) h = taken m turns h ∧ Told m (acts m turns h) h := by
  induction turns generalizing h with
  | nil => exact ⟨rfl, trivial⟩
  | cons turn rest ih =>
    obtain ⟨left, told⟩ := turn.acts_lead m h
    obtain ⟨left', told'⟩ := ih (turn.take m h)
    simp only [acts, after_append, told_append, left]
    exact ⟨left', told, told'⟩

end Host

end Rehearsal
