import Rehearsal.Host.Run
import Rehearsal.Proofs.Run.Trace

/-!
# Hosts that follow a simulated run

A relation between the events to come, an environment and a host is kept along a run if every event
keeps it: the host answers each request as the environment does, and nothing is captured. Then the
host comes to the value of the simulated run, however its program is put together.
-/

namespace Rehearsal

namespace Host

theorem andThen_ok {σ α β : Type} (a : α) (h : Host σ)
    (next : α → Host σ → Outcome β × Host σ) : andThen (.ok a, h) next = next a h :=
  rfl

theorem andThen_assoc {σ α β γ : Type} (step : Outcome α × Host σ)
    (next : α → Host σ → Outcome β × Host σ) (last : β → Host σ → Outcome γ × Host σ) :
    andThen (andThen step next) last = andThen step fun a h => andThen (next a h) last := by
  rcases step with ⟨_ | _, _⟩ <;> rfl

end Host

/-- Every event of a run keeps the relation, and the host answers each request alike. -/
structure Follows {σ : Type} (server : Responder) (m : Machine σ)
    (R : List Event → Environment → Host σ → Prop) : Prop where
  asked : ∀ {r v left rest e h}, R (.asked r v left :: rest) e h →
    r.simulate server e = .ok (v, left) →
      ∃ t h', left = .environment t ∧ t.context = e.context ∧
        r.perform m e.context h = (.ok v, h') ∧ R rest t h'
  ticked : ∀ {rest e t h}, R (.ticked :: rest) e h → e.advance = .ok t →
    t.context = e.context ∧ R rest t h
  opened : ∀ {name rest e h}, R (.opened name :: rest) e h →
    R rest { e with context := e.context ++ [name] } h
  closed : ∀ {context rest e h}, R (.closed context :: rest) e h → R rest { e with context } h
  uncaptured : ∀ {rest e h}, R rest e h → e.captured = none

/-- The host comes to the value of a run and is related to the environment that is left. -/
def Run.Mirrored {σ : Type} (R : List Event → Environment → Host σ → Prop) (rest : List Event)
    (e : Environment) (performed : Outcome Value × Host σ) (run : Run) : Prop :=
  ∃ t h, run.left = .environment t ∧ t.context = e.context ∧ performed = (.ok run.value, h) ∧
    R rest t h

variable {σ : Type} {server : Responder} {m : Machine σ}
  {R : List Event → Environment → Host σ → Prop}

/-- A step of a sequence, its tick, and the rest of it. -/
theorem Run.Mirrored.andThen {e u w : Environment} {rest : List Event} {first second : Run}
    {performed : Outcome Value × Host σ} {next : Value → Host σ → Outcome Value × Host σ}
    (follows : Follows server m R) (left : first.left = .environment u)
    (tick : u.advance = .ok w)
    (hf : first.Mirrored R (.ticked :: (second.events ++ rest)) e performed)
    (hs : ∀ h, w.context = e.context → R (second.events ++ rest) w h →
      second.Mirrored R rest w (next first.value h)) :
    (first.andThen second).Mirrored R rest e (Host.andThen performed next) := by
  obtain ⟨u', h, hu, hc, rfl, related⟩ := hf
  obtain rfl : u' = u := by simpa [left] using hu.symm
  obtain ⟨hw, ready⟩ := follows.ticked related tick
  obtain ⟨t, h', ht, hct, hp, ended⟩ := hs h (hw.trans hc) ready
  exact ⟨t, h', ht, hct.trans (hw.trans hc), hp, ended⟩

mutual

theorem Program.perform_mirrors (follows : Follows server m R) :
    ∀ (p : Program) {e : Environment} {h : Host σ} {run : Run} {rest : List Event},
      p.trace server e = .ok run → R (run.events ++ rest) e h →
        run.Mirrored R rest e (p.perform m e.context h)
  | .pure v, e, h, run, rest, traced, related => by
    cases traced
    exact ⟨e, h, rfl, rfl, rfl, related⟩
  | .fail error, e, h, run, rest, traced, related => by cases traced
  | .ask r, e, h, run, rest, traced, related => by
    obtain ⟨v, left, hr, rfl⟩ := Program.trace_ask_ok traced
    obtain ⟨t, h', ht, hc, hp, ended⟩ := follows.asked related hr
    exact ⟨t, h', ht, hc, hp, ended⟩
  | .bind p next, e, h, run, rest, traced, related => by
    obtain ⟨first, w, second, hf, he, hs, rfl⟩ := Program.trace_bind_ok traced
    obtain ⟨_, u, hu, tick⟩ := Program.enter_ok.mp he
    simp only [Run.andThen, List.append_assoc, List.cons_append] at related
    refine (p.perform_mirrors follows hf related).andThen follows hu tick fun h hc ready => ?_
    -- The host goes on in the context of the bind, which the first part left as it was.
    rw [← hc]
    exact (next first.value).perform_mirrors follows hs ready
  | .map p change, e, h, run, rest, traced, related => by
    obtain ⟨inner, v, hi, hv, rfl⟩ := Program.trace_map_ok traced
    obtain ⟨t, h', ht, hc, hp, ended⟩ := p.perform_mirrors follows hi related
    refine ⟨t, h', ht, hc, ?_, ended⟩
    rw [Program.perform, hp, Host.andThen, hv]
  | .body b, e, h, run, rest, traced, related => b.perform_mirrors follows traced related
  | .attempt p kind, e, h, run, rest, traced, related => by
    obtain ⟨inner, left, hi, hl, rfl⟩ := Program.trace_attempt_ok traced
    obtain ⟨t, h', ht, hc, hp, ended⟩ := p.perform_mirrors follows hi related
    obtain rfl : t = left := by simpa [hl] using ht.symm
    refine ⟨t, h', hl, hc, ?_, ended⟩
    rw [Program.perform, hp, Host.attempted, Environment.attempted, follows.uncaptured ended]
  | .nest name p, e, h, run, rest, traced, related => by
    obtain ⟨inner, left, hi, hl, rfl⟩ := Program.trace_nest_ok traced
    simp only [Run.under, List.append_assoc, List.cons_append, List.nil_append] at related
    obtain ⟨t, h', ht, _, hp, ended⟩ := p.perform_mirrors follows hi (follows.opened related)
    obtain rfl : t = left := by simpa [hl] using ht.symm
    exact ⟨_, h', rfl, rfl, hp, follows.closed ended⟩

theorem Body.perform_mirrors (follows : Follows server m R) :
    ∀ (b : Body) {e : Environment} {h : Host σ} {run : Run} {rest : List Event},
      b.trace server e = .ok run → R (run.events ++ rest) e h →
        run.Mirrored R rest e (b.perform m e.context h)
  | .done v, e, h, run, rest, traced, related => by
    cases traced
    exact ⟨e, h, rfl, rfl, rfl, related⟩
  | .raise error, e, h, run, rest, traced, related => by cases traced
  | .yield p next, e, h, run, rest, traced, related => by
    obtain ⟨first, u, w, second, hf, hu, tick, hs, rfl⟩ := Body.trace_yield_ok traced
    simp only [Run.andThen, List.append_assoc, List.cons_append] at related
    refine (p.perform_mirrors follows hf related).andThen follows hu tick fun h hc ready => ?_
    rw [← hc]
    exact (next first.value).perform_mirrors follows hs ready

end

end Rehearsal
