import Rehearsal.Proofs.Run.Step

/-!
# Runs as trails of steps

Each event of a traced run takes the environment before it to the one after it. A run of a program
that puts no other environment in place is a trail of such steps, whatever it is nested in, and goes
back to the context that it started in. What holds of every step therefore holds of every run by
induction along the trail.
-/

namespace Rehearsal

mutual

/-- Every request that the program may come to is as it should be, whatever its continuations
receive. -/
def Program.All (P : Request → Prop) : Program → Prop
  | .pure _ | .fail _ => True
  | .ask r => P r
  | .bind p next => p.All P ∧ ∀ v, (next v).All P
  | .map p _ => p.All P
  | .body b => b.All P
  | .attempt p _ => p.All P
  | .nest _ p => p.All P

def Body.All (P : Request → Prop) : Body → Prop
  | .done _ | .raise _ => True
  | .yield p next => p.All P ∧ ∀ v, (next v).All P

end

mutual

theorem Program.All.mono {P Q : Request → Prop} (h : ∀ r, P r → Q r) :
    ∀ p : Program, p.All P → p.All Q
  | .pure _, _ | .fail _, _ => trivial
  | .ask r, hp => h r hp
  | .bind p next, hp => ⟨Program.All.mono h p hp.1, fun v => Program.All.mono h (next v) (hp.2 v)⟩
  | .map p _, hp | .attempt p _, hp | .nest _ p, hp => Program.All.mono h p hp
  | .body b, hp => Body.All.mono h b hp

theorem Body.All.mono {P Q : Request → Prop} (h : ∀ r, P r → Q r) :
    ∀ b : Body, b.All P → b.All Q
  | .done _, _ | .raise _, _ => trivial
  | .yield p next, hb => ⟨Program.All.mono h p hb.1, fun v => Body.All.mono h (next v) (hb.2 v)⟩

end

/-- What one event makes of the environment before it. -/
inductive Step (server : Responder) : Environment → Event → Environment → Prop where
  | asked {e : Environment} {r : Request} {v : Value} (keeps : r.KeepsEnvironment)
      (answers : r.Answers server e v) :
      Step server e (.asked r v (.environment (r.after server e))) (r.after server e)
  | ticked {e t : Environment} (h : e.advance = .ok t) : Step server e .ticked t
  | opened (e : Environment) (name : Value) :
      Step server e (.opened name) { e with context := e.context ++ [name] }
  | closed (e : Environment) (context : List Value) :
      Step server e (.closed context) { e with context }

inductive Trail (server : Responder) : Environment → List Event → Environment → Prop where
  | nil (e : Environment) : Trail server e [] e
  | cons {s u t : Environment} {event : Event} {events : List Event} :
      Step server s event u → Trail server u events t → Trail server s (event :: events) t

namespace Trail

variable {server : Responder}

theorem append {s u t : Environment} {events later : List Event}
    (first : Trail server s events u) (second : Trail server u later t) :
    Trail server s (events ++ later) t := by
  induction first with
  | nil => exact second
  | cons step _ ih => exact .cons step (ih second)

theorem single {s t : Environment} {event : Event} (step : Step server s event t) :
    Trail server s [event] t :=
  .cons step (.nil t)

/-- Every place in a trail has the environment that was there. -/
theorem split {s t : Environment} {events later : List Event}
    (h : Trail server s (events ++ later) t) :
    ∃ u, Trail server s events u ∧ Trail server u later t := by
  induction events generalizing s with
  | nil => exact ⟨s, .nil s, h⟩
  | cons event rest ih =>
    cases h with
    | cons step walked =>
      obtain ⟨u, before, after⟩ := ih walked
      exact ⟨u, .cons step before, after⟩

/-- A step of a sequence, its tick, and the rest of it. -/
theorem andThen {s u w t : Environment} {events later : List Event}
    (first : Trail server s events u) (tick : u.advance = .ok w) (second : Trail server w later t) :
    Trail server s (events ++ .ticked :: later) t :=
  first.append (.cons (.ticked tick) second)

/-- A run under a label. -/
theorem under {s t : Environment} {events : List Event} {name : Value} (context : List Value)
    (inner : Trail server { s with context := s.context ++ [name] } events t) :
    Trail server s (.opened name :: (events ++ [.closed context])) { t with context } :=
  .cons (.opened s name) (inner.append (single (.closed t context)))

end Trail

/-- A run that leaves an environment behind, in the context that it started in, along a trail. -/
def Run.Walks (server : Responder) (s : Environment) (run : Run) : Prop :=
  ∃ t, run.left = .environment t ∧ t.context = s.context ∧ Trail server s run.events t

theorem Run.Walks.andThen {server : Responder} {s u w : Environment} {first second : Run}
    (hf : first.Walks server s) (left : first.left = .environment u) (tick : u.advance = .ok w)
    (hs : second.Walks server w) : (first.andThen second).Walks server s := by
  obtain ⟨u', hu, hc, hp⟩ := hf
  obtain rfl : u' = u := by simpa [left] using hu.symm
  obtain ⟨t, ht, hct, hq⟩ := hs
  obtain ⟨clock, _, rfl⟩ := Environment.advance_ok tick
  exact ⟨t, ht, hct.trans hc, hp.andThen tick hq⟩

/-- What the event asks for, if it does, is as it should be. -/
def Event.All (P : Request → Prop) : Event → Prop
  | .asked r _ _ => P r
  | _ => True

def Run.All (P : Request → Prop) (run : Run) : Prop := ∀ event ∈ run.events, event.All P

section

variable {P : Request → Prop}

theorem Run.all_andThen {first second : Run} :
    (first.andThen second).All P ↔ first.All P ∧ second.All P := by
  simp [Run.All, Run.andThen, Event.All, or_imp, forall_and]

theorem Run.all_under {run : Run} {name : Value} {context : List Value} {left : Aftermath} :
    (run.under name context left).All P ↔ run.All P := by
  simp [Run.All, Run.under, Event.All, or_imp, forall_and]

end

/-- The event puts no other environment in place. -/
def Event.Keeps : Event → Prop
  | .asked r _ _ => r.KeepsEnvironment
  | _ => True

def Run.Keeps (run : Run) : Prop := ∀ event ∈ run.events, event.Keeps

theorem Run.keeps_andThen {first second : Run} :
    (first.andThen second).Keeps ↔ first.Keeps ∧ second.Keeps := Run.all_andThen

theorem Run.keeps_under {run : Run} {name : Value} {context : List Value} {left : Aftermath} :
    (run.under name context left).Keeps ↔ run.Keeps := Run.all_under

mutual

/-- A run that puts no other environment in place is a trail. -/
theorem Program.trace_walks_of_keeps {server : Responder} :
    ∀ (p : Program) {e : Environment} {run : Run}, p.trace server e = .ok run →
      run.Keeps → run.Walks server e
  | .pure v, e, run, h, _ => by
    cases h
    exact ⟨e, rfl, rfl, .nil e⟩
  | .fail error, e, run, h, _ => by cases h
  | .ask r, e, run, h, keeps => by
    obtain ⟨v, left, hr, rfl⟩ := Program.trace_ask_ok h
    have kept : r.KeepsEnvironment := keeps _ (List.mem_singleton_self _)
    obtain ⟨answers, rfl⟩ := Request.simulate_ok kept hr
    exact ⟨_, rfl, rfl, .single (.asked kept answers)⟩
  | .bind p next, e, run, h, keeps => by
    obtain ⟨first, entered, second, hf, he, hs, rfl⟩ := Program.trace_bind_ok h
    obtain ⟨_, u, hu, tick⟩ := Program.enter_ok.mp he
    obtain ⟨before, after⟩ := Run.keeps_andThen.mp keeps
    exact (p.trace_walks_of_keeps hf before).andThen hu tick
      ((next first.value).trace_walks_of_keeps hs after)
  | .map p change, e, run, h, keeps => by
    obtain ⟨inner, v, hi, _, rfl⟩ := Program.trace_map_ok h
    have walked : inner.Walks server e := p.trace_walks_of_keeps hi keeps
    exact walked
  | .body b, e, run, h, keeps => b.trace_walks_of_keeps h keeps
  | .attempt p kind, e, run, h, keeps => by
    obtain ⟨inner, left, hi, _, rfl⟩ := Program.trace_attempt_ok h
    have walked : inner.Walks server e := p.trace_walks_of_keeps hi keeps
    exact walked
  | .nest name p, e, run, h, keeps => by
    obtain ⟨inner, left, hi, hl, rfl⟩ := Program.trace_nest_ok h
    obtain ⟨t, ht, _, hp⟩ := p.trace_walks_of_keeps hi (Run.keeps_under.mp keeps)
    obtain rfl : t = left := by simpa [hl] using ht.symm
    exact ⟨_, rfl, rfl, hp.under e.context⟩

theorem Body.trace_walks_of_keeps {server : Responder} :
    ∀ (b : Body) {e : Environment} {run : Run}, b.trace server e = .ok run →
      run.Keeps → run.Walks server e
  | .done v, e, run, h, _ => by
    cases h
    exact ⟨e, rfl, rfl, .nil e⟩
  | .raise error, e, run, h, _ => by cases h
  | .yield p next, e, run, h, keeps => by
    obtain ⟨first, u, resumed, second, hf, hu, tick, hs, rfl⟩ := Body.trace_yield_ok h
    obtain ⟨before, after⟩ := Run.keeps_andThen.mp keeps
    exact (p.trace_walks_of_keeps hf before).andThen hu tick
      ((next first.value).trace_walks_of_keeps hs after)

end

mutual

/-- A run asks for nothing that its program may not come to. -/
theorem Program.trace_all {server : Responder} {P : Request → Prop} :
    ∀ (p : Program) {e : Environment} {run : Run}, p.All P → p.trace server e = .ok run →
      run.All P
  | .pure v, e, run, _, h => by
    cases h
    exact List.forall_mem_nil _
  | .fail error, e, run, _, h => by cases h
  | .ask r, e, run, all, h => by
    obtain ⟨v, left, _, rfl⟩ := Program.trace_ask_ok h
    intro event he
    obtain rfl := List.mem_singleton.mp he
    exact all
  | .bind p next, e, run, all, h => by
    obtain ⟨first, entered, second, hf, _, hs, rfl⟩ := Program.trace_bind_ok h
    exact Run.all_andThen.mpr
      ⟨p.trace_all all.1 hf, (next first.value).trace_all (all.2 first.value) hs⟩
  | .map p change, e, run, all, h => by
    obtain ⟨inner, v, hi, _, rfl⟩ := Program.trace_map_ok h
    have asked : inner.All P := p.trace_all all hi
    exact asked
  | .body b, e, run, all, h => b.trace_all all h
  | .attempt p kind, e, run, all, h => by
    obtain ⟨inner, left, hi, _, rfl⟩ := Program.trace_attempt_ok h
    have asked : inner.All P := p.trace_all all hi
    exact asked
  | .nest name p, e, run, all, h => by
    obtain ⟨inner, left, hi, _, rfl⟩ := Program.trace_nest_ok h
    exact Run.all_under.mpr (p.trace_all all hi)

theorem Body.trace_all {server : Responder} {P : Request → Prop} :
    ∀ (b : Body) {e : Environment} {run : Run}, b.All P → b.trace server e = .ok run → run.All P
  | .done v, e, run, _, h => by
    cases h
    exact List.forall_mem_nil _
  | .raise error, e, run, _, h => by cases h
  | .yield p next, e, run, all, h => by
    obtain ⟨first, u, resumed, second, hf, _, _, hs, rfl⟩ := Body.trace_yield_ok h
    exact Run.all_andThen.mpr
      ⟨p.trace_all all.1 hf, (next first.value).trace_all (all.2 first.value) hs⟩

end

theorem Program.trace_keeps {server : Responder} (p : Program) {e : Environment} {run : Run}
    (keeps : p.All Request.KeepsEnvironment) (h : p.trace server e = .ok run) : run.Keeps :=
  p.trace_all keeps h

theorem Body.trace_keeps {server : Responder} (b : Body) {e : Environment} {run : Run}
    (keeps : b.All Request.KeepsEnvironment) (h : b.trace server e = .ok run) : run.Keeps :=
  b.trace_all keeps h

theorem Program.trace_walks {server : Responder} (p : Program) {e : Environment} {run : Run}
    (keeps : p.All Request.KeepsEnvironment) (h : p.trace server e = .ok run) :
    run.Walks server e :=
  p.trace_walks_of_keeps h (p.trace_keeps keeps h)

/-- A program that returns leaves an environment in the context that it found. -/
def Program.KeepsContext (server : Responder) (p : Program) : Prop :=
  ∀ e v after, p.simulate server e = .ok (v, after) →
    ∃ left, after = .environment left ∧ left.context = e.context

/-- A program that puts no other environment in place keeps the context. -/
theorem Program.keepsContext_of_all {server : Responder} {p : Program}
    (keeps : p.All Request.KeepsEnvironment) : p.KeepsContext server := by
  intro e v after h
  rw [← p.trace_result server e, Outcome.map_eq_ok] at h
  obtain ⟨run, traced, hr⟩ := h
  cases hr
  obtain ⟨left, hl, hc, _⟩ := p.trace_walks keeps traced
  exact ⟨left, hl, hc⟩

end Rehearsal
