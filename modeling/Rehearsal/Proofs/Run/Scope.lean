import Rehearsal.Proofs.Host.Report
import Rehearsal.Proofs.Run.Interpretation
import Rehearsal.Proofs.Value.Joined

/-!
# Scopes of contexts and exactness of assertions

A simulated run threads the context through its environment and puts it back after a label; a run
on a host hands it down, and shares one list of assertions across all labels. Both keep the laws of
an interpretation, so contexts are scoped and assertions are exact in the runs of either, also
where an error passes labels on its way to an attempt.
-/

namespace Rehearsal

/-! ## Simulated runs -/

namespace Event

@[simp]
def recorded : Event → List Assertion
  | .asked r _ _ => r.recorded
  | _ => []

/-- The names that are open after an event. -/
@[simp]
def scope (names : List Value) : Event → List Value
  | .opened name => names ++ [name]
  | .closed _ => names.dropLast
  | _ => names

end Event

theorem Trail.assertions {server : Responder} {s t : Environment} {events : List Event}
    (h : Trail server s events t) :
    t.assertions = s.assertions ++ events.flatMap Event.recorded := by
  induction h with
  | nil => exact (List.append_nil _).symm
  | cons step _ ih =>
    rw [ih, List.flatMap_cons, ← List.append_assoc]
    congr 1
    cases step with
    | asked => rfl
    | ticked h =>
      obtain ⟨clock, _, rfl⟩ := Environment.advance_ok h
      exact (List.append_nil _).symm
    | opened => exact (List.append_nil _).symm
    | closed => exact (List.append_nil _).symm

/-- A run that returns, with the environment that it leaves. -/
def Interpretation.simulated (server : Responder) : Interpretation Environment Event where
  Ends p s outcome events t :=
    ∃ v, outcome = .ok v ∧ p.trace server s = .ok ⟨v, .environment t, events⟩
  Enters p s events t := events = [.ticked] ∧ p.enter (.environment s) = .ok t
  Resumes s events t := events = [.ticked] ∧ s.advance = .ok t
  nested name s := { s with context := s.context ++ [name] }
  opened := .opened
  context := Environment.context
  assertions := Environment.assertions
  scope := Event.scope
  recorded := Event.recorded

namespace Interpretation

section Simulated

variable {server : Responder}

theorem balanced_ticked : (simulated server).Balanced [.ticked] := fun _ => rfl

theorem Balanced.andThen {first second : Run} (hf : (simulated server).Balanced first.events)
    (hs : (simulated server).Balanced second.events) :
    (simulated server).Balanced (first.andThen second).events :=
  hf.append (balanced_ticked.append hs)

theorem Balanced.under {run : Run} (name : Value) (context : List Value) (left : Aftermath)
    (h : (simulated server).Balanced run.events) :
    (simulated server).Balanced (run.under name context left).events := fun names => by
  have inner := h (names ++ [name])
  simp only [simulated] at inner ⊢
  simp only [Run.under, List.foldl_cons, Event.scope, List.foldl_append, inner, List.foldl_nil,
    List.dropLast_concat]

end Simulated

end Interpretation

mutual

/-- A simulated run closes every label that it opens. -/
theorem Program.trace_balanced {server : Responder} :
    ∀ (p : Program) {e : Environment} {run : Run}, p.trace server e = .ok run →
      (Interpretation.simulated server).Balanced run.events
  | .pure v, e, run, h => by
    cases h
    exact .nil
  | .fail error, e, run, h => by cases h
  | .ask r, e, run, h => by
    obtain ⟨v, left, _, rfl⟩ := Program.trace_ask_ok h
    exact fun _ => rfl
  | .bind p next, e, run, h => by
    obtain ⟨first, entered, second, hf, _, hs, rfl⟩ := Program.trace_bind_ok h
    exact (p.trace_balanced hf).andThen ((next first.value).trace_balanced hs)
  | .map p change, e, run, h => by
    obtain ⟨inner, v, hi, _, rfl⟩ := Program.trace_map_ok h
    have balanced : (Interpretation.simulated server).Balanced inner.events := p.trace_balanced hi
    exact balanced
  | .body b, e, run, h => b.trace_balanced h
  | .attempt p kind, e, run, h => by
    obtain ⟨inner, left, hi, _, rfl⟩ := Program.trace_attempt_ok h
    have balanced : (Interpretation.simulated server).Balanced inner.events := p.trace_balanced hi
    exact balanced
  | .nest name p, e, run, h => by
    obtain ⟨inner, left, hi, _, rfl⟩ := Program.trace_nest_ok h
    exact (p.trace_balanced hi).under name _ _

theorem Body.trace_balanced {server : Responder} :
    ∀ (b : Body) {e : Environment} {run : Run}, b.trace server e = .ok run →
      (Interpretation.simulated server).Balanced run.events
  | .done v, e, run, h => by
    cases h
    exact .nil
  | .raise error, e, run, h => by cases h
  | .yield p next, e, run, h => by
    obtain ⟨first, left, resumed, second, hf, _, _, hs, rfl⟩ := Body.trace_yield_ok h
    exact (p.trace_balanced hf).andThen ((next first.value).trace_balanced hs)

end

namespace Interpretation

theorem renderContext_ok {context : List Value} {w : Wording}
    (h : Value.renderContext context = .ok w) :
    ∃ names : List Wording, context = names.map .text ∧ w = .intercalate "/" names := by
  rw [Value.renderContext, Value.joined] at h
  split at h
  · cases h
  · next hs =>
    obtain ⟨names, rfl⟩ := Value.texts_of_strayItem hs
    cases h
    exact ⟨names, rfl, by rw [Value.filterMap_texts]⟩

section Simulated

variable {server : Responder}

/-- What begins with the events of a run that left an environment. -/
theorem simulated_begins {p : Program} {s t : Environment} {run : Run}
    (traced : p.trace server s = .ok run) (left : run.left = .environment t)
    (after : List Event) : (simulated server).Begins p s (run.events ++ after) :=
  ⟨.ok run.value, run.events, t, after, ⟨run.value, rfl, by rw [traced, ← left]⟩, rfl⟩

theorem simulated_lawful (server : Responder) : (simulated server).Lawful where
  ends keeps h := by
    obtain ⟨v, _, traced⟩ := h
    obtain ⟨t, ht, hc, _⟩ := Program.trace_walks _ keeps traced
    cases ht
    exact ⟨hc, Program.trace_balanced _ traced⟩
  balances keeps h := by
    obtain ⟨v, _, traced⟩ := h
    obtain ⟨t, ht, _, walked⟩ := Program.trace_walks _ keeps traced
    cases ht
    exact walked.assertions
  enters h := by
    obtain ⟨rfl, he⟩ := h
    obtain ⟨_, _, hs, tick⟩ := Program.enter_ok.mp he
    cases hs
    obtain ⟨clock, _, rfl⟩ := Environment.advance_ok tick
    exact ⟨rfl, balanced_ticked⟩
  resumes h := by
    obtain ⟨rfl, tick⟩ := h
    obtain ⟨clock, _, rfl⟩ := Environment.advance_ok tick
    exact ⟨rfl, balanced_ticked⟩
  nested _ _ := rfl
  opened _ _ := rfl
  asserts h := by
    obtain ⟨v, rfl, traced⟩ := h
    obtain ⟨first, entered, second, hf, he, hs, hr⟩ := Program.trace_bind_ok traced
    obtain ⟨rendered, left, asked, rfl⟩ := Program.trace_ask_ok hf
    obtain ⟨_, _, _, rfl⟩ := Program.trace_ask_ok hs
    have keeps : Request.context.KeepsEnvironment := trivial
    obtain ⟨⟨w, hw, rfl⟩, _⟩ := Request.simulate_ok keeps asked
    obtain ⟨names, context, rfl⟩ := renderContext_ok hw
    cases hr
    exact Or.inl ⟨names, context, rfl⟩
  first h := by
    obtain ⟨_, _, t, after, ⟨v, _, traced⟩, rfl⟩ := h
    obtain ⟨first, entered, ⟨_, left, later⟩, hf, he, _, hr⟩ := Program.trace_bind_ok traced
    obtain ⟨_, u, hu, _⟩ := Program.enter_ok.mp he
    cases hr
    rw [List.append_assoc]
    exact simulated_begins hf hu _
  next ended entered h := by
    obtain ⟨w, hw, done⟩ := ended
    obtain ⟨rfl, enters⟩ := entered
    cases hw
    obtain ⟨_, _, t, after, ⟨v, _, traced⟩, rfl⟩ := h
    obtain ⟨first, u, second, hf, he, hs, hr⟩ := Program.trace_bind_ok traced
    cases done.symm.trans hf
    cases enters.symm.trans he
    obtain ⟨_, left, events⟩ := second
    cases hr
    exact ⟨events ++ after, by simp, simulated_begins hs rfl after⟩
  mapped h := by
    obtain ⟨_, _, t, after, ⟨v, _, traced⟩, rfl⟩ := h
    obtain ⟨⟨_, left, _⟩, _, hi, _, hr⟩ := Program.trace_map_ok traced
    cases hr
    exact simulated_begins hi rfl after
  attempted h := by
    obtain ⟨_, _, t, after, ⟨v, _, traced⟩, rfl⟩ := h
    obtain ⟨⟨_, left, _⟩, _, hi, _, hr⟩ := Program.trace_attempt_ok traced
    cases hr
    exact simulated_begins hi rfl after
  under h := by
    obtain ⟨_, _, t, after, ⟨v, _, traced⟩, rfl⟩ := h
    obtain ⟨inner, left, hi, hl, hr⟩ := Program.trace_nest_ok traced
    cases hr
    exact ⟨inner.events ++ ([.closed _] ++ after),
      congrArg _ (List.append_assoc ..), simulated_begins hi hl _⟩
  yielded h := by
    obtain ⟨_, _, t, after, ⟨v, _, traced⟩, rfl⟩ := h
    obtain ⟨first, u, _, ⟨_, left, later⟩, hf, hu, _, _, hr⟩ := Body.trace_yield_ok traced
    cases hr
    rw [List.append_assoc]
    exact simulated_begins hf hu _
  resumed ended resumes h := by
    obtain ⟨w, hw, done⟩ := ended
    obtain ⟨rfl, tick⟩ := resumes
    cases hw
    obtain ⟨_, _, t, after, ⟨v, _, traced⟩, rfl⟩ := h
    obtain ⟨first, u, resumed, second, hf, hu, hr, hs, heq⟩ := Body.trace_yield_ok traced
    cases done.symm.trans hf
    cases hu
    cases tick.symm.trans hr
    obtain ⟨_, left, events⟩ := second
    cases heq
    exact ⟨events ++ after, by simp, simulated_begins (p := .body _) hs rfl after⟩

end Simulated

end Interpretation

/-! ## Runs on a host -/

/-- The names that are open after an event. -/
@[simp]
def Host.Event.scope (names : List Value) : Host.Event → List Value
  | .opened name => names ++ [name]
  | .closed => names.dropLast
  | _ => names

/-- A run with a value or with an error, in a context that is handed down. -/
def Interpretation.host {σ : Type} (m : Machine σ) :
    Interpretation (List Value × Host σ) Host.Event where
  Ends p s outcome events t := p.report m s.1 s.2 = ⟨(outcome, t.2), events⟩ ∧ t.1 = s.1
  Enters _ s events t := events = [] ∧ t = s
  Resumes s events t := events = [] ∧ t = s
  nested name s := (s.1 ++ [name], s.2)
  opened := .opened
  context := Prod.fst
  assertions s := s.2.assertions
  scope := Host.Event.scope
  recorded := Host.Event.recorded

namespace Interpretation

section Host

variable {σ : Type} {m : Machine σ}

theorem Balanced.report_andThen {first : Host.Report σ} {next : Value → Host σ → Host.Report σ}
    (hf : (host m).Balanced first.events)
    (hn : ∀ v, (host m).Balanced (next v first.step.2).events) :
    (host m).Balanced (first.andThen next).events := by
  obtain ⟨_, he⟩ | ⟨v, _, he⟩ := first.andThen_events next
  · rwa [he]
  · rw [he]
    exact hf.append (hn v)

theorem Balanced.report_under {r : Host.Report σ} (name : Value)
    (h : (host m).Balanced r.events) : (host m).Balanced (r.under name).events := fun names => by
  have inner := h (names ++ [name])
  simp only [host] at inner ⊢
  simp only [Host.Report.under, List.foldl_cons, Host.Event.scope, List.foldl_append, inner,
    List.foldl_nil, List.dropLast_concat]

end Host

end Interpretation

mutual

/-- A run on a host closes every label that it opens, also those that an error passes. -/
theorem Program.report_balanced {σ : Type} {m : Machine σ} :
    ∀ (p : Program) (context : List Value) (h : Host σ),
      (Interpretation.host m).Balanced (p.report m context h).events
  | .pure _, _, _ => .nil
  | .fail _, _, _ => .nil
  | .ask _, _, _ => fun _ => rfl
  | .bind p next, context, h =>
    (p.report_balanced context h).report_andThen fun v => (next v).report_balanced context _
  | .map p _, context, h => p.report_balanced context h
  | .body b, context, h => b.report_balanced context h
  | .attempt p _, context, h => p.report_balanced context h
  | .nest name p, context, h => (p.report_balanced (context ++ [name]) h).report_under name

theorem Body.report_balanced {σ : Type} {m : Machine σ} :
    ∀ (b : Body) (context : List Value) (h : Host σ),
      (Interpretation.host m).Balanced (b.report m context h).events
  | .done _, _, _ => .nil
  | .raise _, _, _ => .nil
  | .yield p next, context, h =>
    (p.report_balanced context h).report_andThen fun v => (next v).report_balanced context _

end

namespace Interpretation

section Host

variable {σ : Type} {m : Machine σ}

theorem host_begins {p : Program} {s : List Value × Host σ} {events : List Host.Event} :
    (host m).Begins p s events ↔ ∃ after, events = (p.report m s.1 s.2).events ++ after := by
  constructor
  · rintro ⟨outcome, inner, t, after, ⟨hr, _⟩, rfl⟩
    exact ⟨after, by rw [hr]⟩
  · rintro ⟨after, rfl⟩
    exact ⟨_, _, (s.1, (p.report m s.1 s.2).step.2), after, ⟨rfl, rfl⟩, rfl⟩

/-- A second step begins where the first one ended with a value. -/
theorem host_begins_andThen {first : Host.Report σ} {next : Value → Host σ → Host.Report σ}
    {v : Value} {h : Host σ} {done : List Host.Event} (hf : first = ⟨(.ok v, h), done⟩) :
    (first.andThen next).events = done ++ (next v h).events := by
  rw [hf]
  rfl

theorem host_lawful (m : Machine σ) : (host m).Lawful where
  ends {p s t outcome events} _ h := by
    obtain ⟨hr, hc⟩ := h
    have balanced : (host m).Balanced (p.report m s.1 s.2).events := p.report_balanced s.1 s.2
    rw [hr] at balanced
    exact ⟨hc, balanced⟩
  balances {p s t outcome events} _ h := by
    have balances := p.report_balances m s.1 s.2
    rw [h.1] at balances
    exact balances
  enters h := by
    obtain ⟨rfl, rfl⟩ := h
    exact ⟨rfl, .nil⟩
  resumes h := by
    obtain ⟨rfl, rfl⟩ := h
    exact ⟨rfl, .nil⟩
  nested _ _ := rfl
  opened _ _ := rfl
  asserts {holds statement comment s t outcome events} h := by
    obtain ⟨hr, _⟩ := h
    obtain ⟨context, before⟩ := s
    obtain ⟨_, left⟩ := t
    simp only [Program.assertThat, Program.report, Request.perform, Host.still] at hr
    cases hw : Value.renderContext context with
    | error e =>
      rw [hw] at hr
      cases hr
      exact Or.inr ⟨⟨e, rfl⟩, rfl⟩
    | ok w =>
      obtain ⟨names, texts, rfl⟩ := renderContext_ok hw
      rw [hw] at hr
      cases hr
      exact Or.inl ⟨names, texts, rfl⟩
  first {p next s events} h := by
    obtain ⟨after, rfl⟩ := host_begins.mp h
    rw [host_begins, Program.report]
    obtain ⟨_, he⟩ | ⟨v, _, he⟩ := Host.Report.andThen_events (p.report m s.1 s.2) _
    · rw [he]
      exact ⟨after, rfl⟩
    · rw [he, List.append_assoc]
      exact ⟨_, rfl⟩
  next {p next s u w v done ticks events} ended entered h := by
    obtain ⟨hp, hu⟩ := ended
    obtain ⟨rfl, rfl⟩ := entered
    obtain ⟨after, rfl⟩ := host_begins.mp h
    rw [Program.report, host_begins_andThen hp, ← hu, List.append_assoc, List.append_nil]
    exact ⟨_, rfl, host_begins.mpr ⟨after, rfl⟩⟩
  mapped h := by
    obtain ⟨after, rfl⟩ := host_begins.mp h
    exact host_begins.mpr ⟨after, rfl⟩
  attempted h := by
    obtain ⟨after, rfl⟩ := host_begins.mp h
    exact host_begins.mpr ⟨after, rfl⟩
  under h := by
    obtain ⟨after, rfl⟩ := host_begins.mp h
    exact ⟨_, rfl, host_begins.mpr ⟨[.closed] ++ after, List.append_assoc ..⟩⟩
  yielded {p next s events} h := by
    obtain ⟨after, rfl⟩ := host_begins.mp h
    rw [host_begins, Program.report, Body.report]
    obtain ⟨_, he⟩ | ⟨v, _, he⟩ := Host.Report.andThen_events (p.report m s.1 s.2) _
    · rw [he]
      exact ⟨after, rfl⟩
    · rw [he, List.append_assoc]
      exact ⟨_, rfl⟩
  resumed {p next s u w v done ticks events} ended resumes h := by
    obtain ⟨hp, hu⟩ := ended
    obtain ⟨rfl, rfl⟩ := resumes
    obtain ⟨after, rfl⟩ := host_begins.mp h
    rw [Program.report, Body.report, host_begins_andThen hp, ← hu, List.append_assoc,
      List.append_nil]
    exact ⟨_, rfl, host_begins.mpr ⟨after, rfl⟩⟩

end Host

end Interpretation

/-- Whichever interpreter runs a program, contexts are scoped and assertions are exact. A simulation
adds the assertions to those of its environment; a host begins every run without any. -/
theorem Program.run_scopes (server : Responder) {σ : Type} (m : Machine σ) (p : Program)
    (keeps : p.All Request.KeepsEnvironment) :
    (∀ s : Environment, (Interpretation.simulated server).Scopes p s ∧
      ∀ v after, p.simulate server s = .ok (v, after) → ∃ events t,
        after = .environment t ∧ (Interpretation.simulated server).Ends p s (.ok v) events t ∧
        t.context = s.context ∧
        t.assertions = s.assertions ++ (Interpretation.simulated server).records events) ∧
    ∀ (context : List Value) (h : Host σ),
      (Interpretation.host m).Scopes p (context, { h with assertions := [] }) ∧
      ∃ outcome events left, (Operand.program p).perform m context h = (outcome, left) ∧
        (Interpretation.host m).Ends p (context, { h with assertions := [] }) outcome events
          (context, left) ∧
        left.assertions = (Interpretation.host m).records events := by
  constructor
  · intro s
    have scopes := (Interpretation.simulated_lawful server).scopes keeps s
    refine ⟨scopes, fun v after h => ?_⟩
    obtain ⟨events, traced⟩ := Program.trace_of_simulate h
    obtain ⟨t, ht, context, _⟩ := p.trace_walks keeps traced
    cases ht
    have ended : (Interpretation.simulated server).Ends p s (.ok v) events t := ⟨v, rfl, traced⟩
    exact ⟨events, t, rfl, ended, context, scopes.exact ended⟩
  · intro context h
    have scopes :=
      (Interpretation.host_lawful m).scopes keeps (context, { h with assertions := [] })
    have performed := p.report_step m context { h with assertions := [] }
    have ended : (Interpretation.host m).Ends p (context, { h with assertions := [] })
        (p.report m context { h with assertions := [] }).step.1
        (p.report m context { h with assertions := [] }).events
        (context, (p.report m context { h with assertions := [] }).step.2) := ⟨rfl, rfl⟩
    exact ⟨scopes, _, _, _, performed.symm, ended, scopes.exact ended⟩

/-- A world without files, in which nothing answers. -/
def Machine.bare : Machine Unit where
  now w := (Environment.fresh.clock, w)
  randomInt low _ w := (.ok low, w)
  uniform low _ w := (.ok low, w)
  send _ _ w := (.error (.transport ⟨.connectError, ""⟩), w)
  obstacle? _ _ := some .noEntry
  loadFile _ w := (.error .noEntry, w)
  saveFile _ _ w := (.error .noSpace, w)

/-- Records an assertion under two labels and fails there, then records another one outside. -/
def recovering : Program :=
  .bind (.attempt (.nest (.text "outer") (.nest (.text "inner")
    (.bind (.assertThat true "it holds" "before") fun _ => .ask (.loadFile (.text "lost")))))
    .notFound) fun _ => .assertThat true "it holds" "after"

/-- The contexts of the assertions in an environment. -/
def Aftermath.contexts? : Aftermath → Option (List Wording)
  | .environment t => some (t.assertions.map (·.context))
  | .stray _ => none

theorem recovering_scopes :
    recovering.All Request.KeepsEnvironment ∧
      (∃ v t events, recovering.simulate .unreachable .fresh = .ok (v, .environment t) ∧
        t.assertions = (Interpretation.simulated .unreachable).records events ∧
        t.assertions.map (·.context) = [.plain "outer/inner", .plain ""]) ∧
      ∃ left events,
        (Operand.program recovering).perform Machine.bare [] { world := () } = (.ok .none, left) ∧
        left.assertions = (Interpretation.host Machine.bare).records events ∧
        left.assertions.map (·.context) = [.plain "outer/inner", .plain ""] := by
  have keeps : recovering.All Request.KeepsEnvironment := by
    simp [recovering, Program.All, Program.assertThat, Request.KeepsEnvironment]
  obtain ⟨simulated, performed⟩ := recovering.run_scopes .unreachable Machine.bare keeps
  refine ⟨keeps, ?_, ?_⟩
  · have contexts : (recovering.simulate .unreachable .fresh).toOption.map (·.2.contexts?) =
        some (some [.plain "outer/inner", .plain ""]) := by decide +kernel
    cases h : recovering.simulate .unreachable .fresh with
    | error e =>
      rw [h] at contexts
      cases contexts
    | ok r =>
      obtain ⟨events, t, left, _, _, added⟩ := (simulated .fresh).2 r.1 r.2 h
      rw [h, Except.toOption, Option.map_some, left] at contexts
      exact ⟨r.1, t, events, by rw [← left], added, Option.some.inj (Option.some.inj contexts)⟩
  · have contexts : ((Operand.program recovering).perform Machine.bare []
        { world := () }).2.assertions.map (·.context) = [.plain "outer/inner", .plain ""] := by
      decide +kernel
    obtain ⟨_, outcome, events, left, hp, _, recorded⟩ := performed [] { world := () }
    have value : outcome = .ok .none := (congrArg Prod.fst hp).symm
    subst value
    rw [hp] at contexts
    exact ⟨left, events, hp, recorded, contexts⟩

end Rehearsal
