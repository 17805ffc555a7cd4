import Rehearsal.Proofs.Run.Scope

/-!
# The captured fault

An environment keeps one fault. It is a register: it holds what was last written to it, be it the
fault of an operation that failed or nothing where it was cleared. An attempt reads the register
when its program is done, however old the fault in it is. No fault stops a run: an operation that
captures one returns, and whatever stops a run stops it with any other fault in the register as
well.
-/

namespace Rehearsal

namespace Outcome

theorem bind_eq_error {α β : Type} {x : Outcome α} {f : α → Outcome β} {error : Error} :
    x >>= f = .error error ↔ x = .error error ∨ ∃ a, x = .ok a ∧ f a = .error error := by
  cases x <;> simp [bind, Except.bind]

theorem map_eq_error {α β : Type} {x : Outcome α} {f : α → β} {error : Error} :
    x.map f = .error error ↔ x = .error error := by
  cases x <;> simp [Except.map]

end Outcome

/-- What the event is to write to the register: the fault of an operation that fails in that
environment, or nothing where the register is cleared. -/
def Event.written? (e : Environment) : Event → Option (Option Fault)
  | .asked .clearFault _ _ => some none
  | .asked r _ _ => (r.fault? e).map some
  | _ => none

/-- A trail on which nothing is written to the register. -/
inductive Unwritten (server : Responder) : Environment → List Event → Environment → Prop where
  | nil (e : Environment) : Unwritten server e [] e
  | cons {s u t : Environment} {event : Event} {events : List Event} :
      Step server s event u → event.written? s = none → Unwritten server u events t →
        Unwritten server s (event :: events) t

/-- The register holds what was last written to it on the way, or what it held before. -/
def LastWritten (server : Responder) (s : Environment) (events : List Event)
    (t : Environment) : Prop :=
  (Unwritten server s events t ∧ t.captured = s.captured) ∨
    ∃ before event later u w, events = before ++ event :: later ∧ Trail server s before u ∧
      Step server u event w ∧ event.written? u = some t.captured ∧ Unwritten server w later t

section Trails

variable {server : Responder} {s t : Environment}

theorem Step.written {event : Event} (h : Step server s event t) :
    t.captured = (event.written? s).getD s.captured := by
  cases h with
  | ticked h =>
    obtain ⟨clock, _, rfl⟩ := Environment.advance_ok h
    rfl
  | @asked r v keeps answers =>
    have stored (o : Option Fault) : o.or s.captured = (o.map some).getD s.captured := by
      cases o <;> rfl
    cases r with
    | loadFile path => exact stored ((Request.loadFile path).fault? s)
    | saveFile path contents => exact stored ((Request.saveFile path contents).fault? s)
    | _ => rfl
  | _ => rfl

/-- By induction along the trail: the first step is what was last written if it writes and nothing
does later. -/
theorem Trail.lastWritten {events : List Event} (h : Trail server s events t) :
    LastWritten server s events t := by
  induction h with
  | nil e => exact .inl ⟨.nil e, rfl⟩
  | @cons s u t event events step walked ih =>
    obtain ⟨silent, kept⟩ | ⟨before, last, later, v, w, rfl, first, wrote, held, silent⟩ := ih
    · have written := step.written
      cases hw : event.written? s with
      | none =>
        rw [hw, Option.getD_none] at written
        exact .inl ⟨.cons step hw silent, kept.trans written⟩
      | some fault =>
        rw [hw, Option.getD_some] at written
        refine .inr ⟨[], event, events, s, u, rfl, .nil s, step, ?_, silent⟩
        rw [hw, kept, written]
    · exact .inr ⟨event :: before, last, later, v, w, rfl, .cons step first, wrote, held, silent⟩

end Trails

namespace Interpretation

variable {server : Responder} {p q : Program} {s t u : Environment}

theorem ends_trail {v : Value} {events : List Event} (keeps : p.All Request.KeepsEnvironment)
    (h : (simulated server).Ends p s (.ok v) events t) : Trail server s events t := by
  obtain ⟨_, _, traced⟩ := h
  obtain ⟨_, left, _, walked⟩ := p.trace_walks keeps traced
  cases left
  exact walked

/-- The way to a sub-program is a trail. -/
theorem Comes.trail {before : List Event} (h : (simulated server).Comes p s before q t)
    (keeps : p.All Request.KeepsEnvironment) :
    q.All Request.KeepsEnvironment ∧ Trail server s before t := by
  induction h with
  | here p s => exact ⟨keeps, .nil s⟩
  | first _ ih => exact ih keeps.1
  | @next p q next s u w t v done ticks before ended entered _ ih =>
    obtain ⟨rfl, enters⟩ := entered
    obtain ⟨_, _, hu, tick⟩ := Program.enter_ok.mp enters
    cases hu
    obtain ⟨hq, later⟩ := ih (keeps.2 v)
    rw [List.append_assoc]
    exact ⟨hq, (ends_trail keeps.1 ended).andThen tick later⟩
  | mapped _ ih => exact ih keeps
  | attempted _ ih => exact ih keeps
  | @nested p q name s t before _ ih =>
    obtain ⟨hq, inner⟩ := ih keeps
    exact ⟨hq, .cons (.opened s name) inner⟩
  | yielded _ ih => exact ih keeps.1
  | @resumed p q next s u w t v done ticks before ended resumes _ ih =>
    obtain ⟨rfl, tick⟩ := resumes
    obtain ⟨hq, later⟩ := ih (keeps.2 v)
    rw [List.append_assoc]
    exact ⟨hq, (ends_trail keeps.1 ended).andThen tick later⟩

/-- An attempt goes the way of its program and reads the register at the end of it. -/
theorem ends_attempt {kind : FaultKind} {v : Value} {events : List Event} :
    (simulated server).Ends (.attempt p kind) s (.ok v) events t ↔
      ∃ w, (simulated server).Ends p s (.ok w) events t ∧ v = t.attempted kind w := by
  constructor
  · rintro ⟨_, hv, traced⟩
    cases hv
    obtain ⟨⟨w, _, _⟩, left, inner, hl, hr⟩ := Program.trace_attempt_ok traced
    cases hl
    cases hr
    exact ⟨w, ⟨w, rfl, inner⟩, rfl⟩
  · rintro ⟨w, ⟨_, hw, traced⟩, rfl⟩
    cases hw
    refine ⟨_, rfl, ?_⟩
    rw [Program.trace, traced]
    rfl

end Interpretation

/-! ## What stops a run -/

/-- The program itself stops in the environment: a continuation or a change raises, the clock is at
its end, or a request cannot be carried out, whatever the register holds. A request that was to
capture a fault is among these only if the fault cannot be written. -/
inductive Program.Stops (server : Responder) : Program → Environment → Error → Prop where
  | failed (error : Error) (e : Environment) : Stops server (.fail error) e error
  | raised (error : Error) (e : Environment) : Stops server (.body (.raise error)) e error
  | refused {r : Request} {e : Environment} {error : Error}
      (whatever : ∀ fault, r.simulate server { e with captured := fault } = .error error)
      (unwritable : ∀ f, r.fault? e = some f → f.holdsLong = true) : Stops server (.ask r) e error
  | changed {p : Program} {change : Value → Outcome Value} {e t : Environment} {v : Value}
      {events : List Event} {error : Error}
      (ended : (Interpretation.simulated server).Ends p e (.ok v) events t)
      (raises : change v = .error error) : Stops server (.map p change) e error
  | strayed {p : Program} {next : Value → Program} {e t : Environment} {v : Value}
      {events : List Event} {error : Error}
      (ended : (Interpretation.simulated server).Ends p e (.ok v) events t)
      (raises : (next v).refusal? = some error) : Stops server (.bind p next) e error
  | unentered {p : Program} {next : Value → Program} {e t : Environment} {v : Value}
      {events : List Event} (ended : (Interpretation.simulated server).Ends p e (.ok v) events t)
      (late : t.clock.add? t.tick = none) : Stops server (.bind p next) e (.overflow .date)
  | unresumed {p : Program} {next : Value → Body} {e t : Environment} {v : Value}
      {events : List Event} (ended : (Interpretation.simulated server).Ends p e (.ok v) events t)
      (late : t.clock.add? t.tick = none) :
      Stops server (.body (.yield p next)) e (.overflow .date)

namespace Environment

theorem advance_error {e : Environment} {error : Error} (h : e.advance = .error error) :
    e.clock.add? e.tick = none ∧ error = .overflow .date := by
  unfold advance at h
  split at h
  · cases h
  · next late =>
    cases h
    exact ⟨late, rfl⟩

/-- Captures a new fault, which can be made only if it can be written. -/
def storing (f : Fault) (e : Environment) : Outcome (Value × Environment) :=
  if f.holdsLong then .error (.rejected .longNumber) else .ok (.none, e.capture f)

theorem failing_eq_storing (kind : FaultKind) (message : String) (path : Value) (e : Environment) :
    e.failing kind message path = e.storing ⟨kind, message, path⟩ := by
  unfold failing storing Fault.make
  dsimp only
  split <;> rfl

theorem storing_error {f : Fault} {e : Environment} {error : Error}
    (h : e.storing f = .error error) :
    (∀ fault, ({ e with captured := fault } : Environment).storing f = .error error) ∧
      f.holdsLong = true := by
  unfold storing at h ⊢
  split at h
  · next long => exact ⟨fun _ => by rw [if_pos long, h], long⟩
  · cases h

theorem storing_short {f : Fault} (e : Environment) (short : f.holdsLong = false) :
    e.storing f = .ok (.none, e.capture f) := by
  rw [storing, short]
  rfl

theorem loadFile_fault {path : Value} {e : Environment} {f : Fault}
    (stored : (Request.loadFile path).fault? e = some f) :
    e.loadFile path = e.storing f := by
  unfold loadFile
  simp only [Request.fault?] at stored
  split at stored
  · next missing =>
    cases stored
    rw [if_pos missing, failing_eq_storing]
  · next there =>
    rw [if_neg there]
    split at stored
    · next empty =>
      cases stored
      rw [List.isEmpty_iff.mp empty]
      exact failing_eq_storing ..
    · cases stored

theorem loadFile_short {path : Value} {e : Environment}
    (unstored : (Request.loadFile path).fault? e = none) : ∃ r, e.loadFile path = .ok r := by
  unfold loadFile
  simp only [Request.fault?] at unstored
  split at unstored
  · cases unstored
  · next there =>
    rw [if_neg there]
    cases queued : e.fileIn with
    | nil =>
      rw [queued] at unstored
      cases unstored
    | cons contents rest => exact ⟨_, rfl⟩

theorem saveFile_fault {path contents : Value} {e : Environment} {f : Fault}
    (stored : (Request.saveFile path contents).fault? e = some f) :
    e.saveFile path contents = e.storing f := by
  unfold saveFile
  simp only [Request.fault?] at stored
  split at stored
  · next full =>
    cases stored
    rw [if_pos full, failing_eq_storing]
  · cases stored

/-! The register has no part in it whether an operation can be carried out. -/

theorem put_error {handle text : Value} {e : Environment} {error : Error}
    (h : e.put handle text = .error error) (fault : Option Fault) :
    ({ e with captured := fault } : Environment).put handle text = .error error := by
  unfold put at h ⊢
  cases stdout : handle.same (.handle .stdout) with
  | true =>
    rw [stdout] at h
    cases h
  | false =>
    rw [stdout] at h
    cases named : handle.name with
    | ok name =>
      rw [named] at h
      cases h
    | error unnamed =>
      rw [named] at h
      cases h
      rfl

theorem loadFile_error {path : Value} {e : Environment} {error : Error}
    (h : e.loadFile path = .error error) :
    (∀ fault, ({ e with captured := fault } : Environment).loadFile path = .error error) ∧
      ∀ f, (Request.loadFile path).fault? e = some f → f.holdsLong = true := by
  cases stored : (Request.loadFile path).fault? e with
  | none =>
    obtain ⟨_, loaded⟩ := loadFile_short stored
    cases loaded.symm.trans h
  | some f =>
    rw [loadFile_fault stored] at h
    obtain ⟨whatever, long⟩ := storing_error h
    refine ⟨fun fault => ?_, fun _ same => Option.some.inj same ▸ long⟩
    rw [loadFile_fault (e := { e with captured := fault }) stored, whatever]

theorem saveFile_error {path contents : Value} {e : Environment} {error : Error}
    (h : e.saveFile path contents = .error error) :
    (∀ fault, ({ e with captured := fault } : Environment).saveFile path contents =
        .error error) ∧
      ∀ f, (Request.saveFile path contents).fault? e = some f → f.holdsLong = true := by
  cases stored : (Request.saveFile path contents).fault? e with
  | none =>
    refine ⟨fun fault => ?_, nofun⟩
    unfold saveFile at h ⊢
    simp only [Request.fault?] at stored
    split at stored
    · cases stored
    · next room =>
      rw [if_neg room] at h ⊢
      cases written : contents.toBytes with
      | ok bytes =>
        rw [written] at h
        cases h
      | error refused =>
        rw [written] at h
        cases h
        rfl
  | some f =>
    rw [saveFile_fault stored] at h
    obtain ⟨whatever, long⟩ := storing_error h
    refine ⟨fun fault => ?_, fun _ same => Option.some.inj same ▸ long⟩
    rw [saveFile_fault (e := { e with captured := fault }) stored, whatever]

theorem drawBetween_error {a b : Value} {e : Environment} {error : Error}
    (h : e.drawBetween a b = .error error) (fault : Option Fault) :
    ({ e with captured := fault } : Environment).drawBetween a b = .error error := by
  unfold drawBetween at h ⊢
  dsimp only at h ⊢
  cases drawn : e.generator.between a b with
  | ok v =>
    rw [drawn] at h
    cases h
  | error e =>
    rw [drawn] at h
    cases h
    rfl

theorem respond_error {server : Responder} {r : HttpRequest} {e : Environment} {error : Error}
    (h : e.respond server r = .error error) (fault : Option Fault) :
    ({ e with captured := fault } : Environment).respond server r = .error error := by
  unfold respond at h ⊢
  dsimp only at h ⊢
  cases answered : server.answer e.clientLocal r with
  | ok answer =>
    rw [answered] at h
    obtain ⟨answer, kept⟩ := answer
    cases answer with
    | success w => cases h
    | failure w => cases h
    | _ =>
      cases h
      rfl
  | error e =>
    rw [answered] at h
    cases h
    rfl

end Environment

namespace Request

theorem simulate_error {server : Responder} {r : Request} {e : Environment} {error : Error}
    (h : r.simulate server e = .error error) :
    (∀ fault, r.simulate server { e with captured := fault } = .error error) ∧
      ∀ f, r.fault? e = some f → f.holdsLong = true := by
  cases r with
  | put handle text =>
    simp only [simulate, Outcome.map_eq_error, Outcome.bind_eq_error] at h ⊢
    obtain refused | ⟨_, _, returned⟩ := h
    · exact ⟨fun fault => .inl (Environment.put_error refused fault),
        fun _ captures => by cases captures⟩
    · cases returned
  | loadFile path =>
    simp only [simulate, Outcome.map_eq_error] at h ⊢
    exact Environment.loadFile_error h
  | saveFile path contents =>
    simp only [simulate, Outcome.map_eq_error] at h ⊢
    exact Environment.saveFile_error h
  | randomBetween a b =>
    simp only [simulate, Outcome.map_eq_error] at h ⊢
    exact ⟨Environment.drawBetween_error h, fun _ captures => by cases captures⟩
  | http request session =>
    simp only [simulate, Outcome.map_eq_error] at h ⊢
    exact ⟨Environment.respond_error h, fun _ captures => by cases captures⟩
  | context =>
    simp only [simulate, Outcome.map_eq_error, Outcome.bind_eq_error] at h ⊢
    obtain unrendered | ⟨_, _, returned⟩ := h
    · exact ⟨fun _ => .inl unrendered, fun _ captures => by cases captures⟩
    · cases returned
  | _ => cases h

/-- A request that is to capture a fault captures it and returns, unless the fault is new and cannot
be written. -/
theorem simulate_fault {server : Responder} {r : Request} {e : Environment} {f : Fault}
    (stored : r.fault? e = some f) (written : f.holdsLong = true → r = .throw f) :
    r.simulate server e = .ok (.none, .environment { e with captured := some f }) := by
  cases r with
  | throw g =>
    cases stored
    rfl
  | loadFile path =>
    cases long : f.holdsLong with
    | true => cases written long
    | false =>
      rw [simulate, Environment.loadFile_fault stored, Environment.storing_short e long]
      rfl
  | saveFile path contents =>
    cases long : f.holdsLong with
    | true => cases written long
    | false =>
      rw [simulate, Environment.saveFile_fault stored, Environment.storing_short e long]
      rfl
  | _ => cases stored

end Request

section Errors

variable {server : Responder}

/-- What returns without an error leaves an environment. -/
theorem Program.ends_of_simulate {p : Program} {s : Environment} {v : Value} {after : Aftermath}
    (keeps : p.All Request.KeepsEnvironment) (h : p.simulate server s = .ok (v, after)) :
    ∃ u events, after = .environment u ∧
      (Interpretation.simulated server).Ends p s (.ok v) events u := by
  obtain ⟨events, traced⟩ := Program.trace_of_simulate h
  obtain ⟨u, left, _⟩ := p.trace_walks keeps traced
  cases left
  exact ⟨u, events, rfl, v, rfl, traced⟩

/-- A continuation is not entered if it came to no computation or the clock is at its end. -/
theorem Program.enter_error {p : Program} {u : Environment} {error : Error}
    (h : p.enter (.environment u) = .error error) :
    p.refusal? = some error ∨ u.advance = .error error := by
  unfold Program.enter at h
  split at h
  · next refusal =>
    cases h
    exact .inl refusal
  · exact .inr h

mutual

/-- A run with an error comes to a place that stops it. By induction on the program: what it goes
through before that place has returned. -/
theorem Program.stops_of_error : ∀ (p : Program) {s : Environment} {error : Error},
    p.All Request.KeepsEnvironment → p.simulate server s = .error error →
      ∃ before q t, (Interpretation.simulated server).Comes p s before q t ∧
        q.Stops server t error
  | .pure v, s, error, _, h => by cases h
  | .fail failure, s, error, _, h => by
    cases h
    exact ⟨[], _, s, .here _ s, .failed _ s⟩
  | .ask r, s, error, _, h => by
    obtain ⟨whatever, unwritable⟩ := Request.simulate_error h
    exact ⟨[], _, s, .here _ s, .refused whatever unwritable⟩
  | .bind p next, s, error, keeps, h => by
    simp only [Program.simulate, Outcome.bind_eq_error] at h
    obtain early | ⟨⟨v, after⟩, first, refused | ⟨w, entered, later⟩⟩ := h
    · obtain ⟨before, q, t, comes, stops⟩ := p.stops_of_error keeps.1 early
      exact ⟨before, q, t, .first comes, stops⟩
    · obtain ⟨u, done, rfl, ended⟩ := p.ends_of_simulate keeps.1 first
      obtain refusal | late := Program.enter_error refused
      · exact ⟨[], _, s, .here _ s, .strayed ended refusal⟩
      · obtain ⟨atEnd, rfl⟩ := Environment.advance_error late
        exact ⟨[], _, s, .here _ s, .unentered ended atEnd⟩
    · obtain ⟨u, done, rfl, ended⟩ := p.ends_of_simulate keeps.1 first
      obtain ⟨before, q, t, comes, stops⟩ := (next v).stops_of_error (keeps.2 v) later
      exact ⟨_, q, t, .next ended ⟨rfl, entered⟩ comes, stops⟩
  | .map p change, s, error, keeps, h => by
    simp only [Program.simulate, Outcome.bind_eq_error] at h
    obtain early | ⟨⟨v, after⟩, first, raises | ⟨w, _, returns⟩⟩ := h
    · obtain ⟨before, q, t, comes, stops⟩ := p.stops_of_error keeps early
      exact ⟨before, q, t, .mapped comes, stops⟩
    · obtain ⟨u, done, rfl, ended⟩ := p.ends_of_simulate keeps first
      exact ⟨[], _, s, .here _ s, .changed ended raises⟩
    · cases returns
  | .body b, s, error, keeps, h => b.stops_of_error keeps h
  | .attempt p kind, s, error, keeps, h => by
    simp only [Program.simulate, Outcome.bind_eq_error] at h
    obtain early | ⟨⟨v, after⟩, first, stray⟩ := h
    · obtain ⟨before, q, t, comes, stops⟩ := p.stops_of_error keeps early
      exact ⟨before, q, t, .attempted comes, stops⟩
    · obtain ⟨u, done, rfl, ended⟩ := p.ends_of_simulate keeps first
      obtain stray | ⟨left, _, returns⟩ := stray
      · cases stray
      · cases returns
  | .nest name p, s, error, keeps, h => by
    simp only [Program.simulate, Outcome.bind_eq_error] at h
    obtain early | ⟨⟨v, after⟩, first, stray⟩ := h
    · obtain ⟨before, q, t, comes, stops⟩ := p.stops_of_error keeps early
      exact ⟨_, q, t, .nested comes, stops⟩
    · obtain ⟨u, done, rfl, ended⟩ := p.ends_of_simulate keeps first
      obtain stray | ⟨left, _, returns⟩ := stray
      · cases stray
      · cases returns

theorem Body.stops_of_error : ∀ (b : Body) {s : Environment} {error : Error},
    b.All Request.KeepsEnvironment → b.simulate server s = .error error →
      ∃ before q t, (Interpretation.simulated server).Comes (.body b) s before q t ∧
        q.Stops server t error
  | .done v, s, error, _, h => by cases h
  | .raise raised, s, error, _, h => by
    cases h
    exact ⟨[], _, s, .here _ s, .raised _ s⟩
  | .yield p next, s, error, keeps, h => by
    simp only [Body.simulate, Outcome.bind_eq_error] at h
    obtain early | ⟨⟨v, after⟩, first, later⟩ := h
    · obtain ⟨before, q, t, comes, stops⟩ := p.stops_of_error keeps.1 early
      exact ⟨before, q, t, .yielded comes, stops⟩
    · obtain ⟨u, done, rfl, ended⟩ := p.ends_of_simulate keeps.1 first
      obtain stray | ⟨left, required, late | ⟨w, ticked, later⟩⟩ := later
      · cases stray
      · cases required
        obtain ⟨atEnd, rfl⟩ := Environment.advance_error late
        exact ⟨[], _, s, .here _ s, .unresumed ended atEnd⟩
      · cases required
        obtain ⟨before, q, t, comes, stops⟩ := (next v).stops_of_error (keeps.2 v) later
        exact ⟨_, q, t, .resumed ended ⟨rfl, ticked⟩ comes, stops⟩

end

end Errors

/-- What holds of the register in the run of a program from an environment. -/
structure Registers (server : Responder) (p : Program) (s : Environment) : Prop where
  /-- Wherever the run comes, also if it is stopped later, the register holds what was last written
  to it. -/
  reached {before : List Event} {q : Program} {t : Environment}
    (comes : (Interpretation.simulated server).Comes p s before q t) : LastWritten server s before t
  left {before inner : List Event} {q : Program} {t u : Environment} {v : Value}
    (comes : (Interpretation.simulated server).Comes p s before q t)
    (ended : (Interpretation.simulated server).Ends q t (.ok v) inner u) :
    LastWritten server s (before ++ inner) u
  /-- So it does between any two events of a run that returns. -/
  between {before later : List Event} {t : Environment} {v : Value}
    (ended : (Interpretation.simulated server).Ends p s (.ok v) (before ++ later) t) :
    ∃ u, Trail server s before u ∧ Trail server u later t ∧ LastWritten server s before u
  /-- An attempt leaves what its program leaves. It returns the fault in the register as a failure
  if that is of the wanted kind, whoever wrote it and when, else the value as a success. -/
  attempted {q : Program} {kind : FaultKind} {t u : Environment} {v : Value} {inner : List Event} :
    (Interpretation.simulated server).Ends (.attempt q kind) t (.ok v) inner u ↔
      ∃ w, (Interpretation.simulated server).Ends q t (.ok w) inner u ∧
        ((∃ f, u.captured = some f ∧ (kind = .general ∨ kind = f.kind) ∧ v = .failure (.fault f)) ∨
          ((∀ f, u.captured = some f → kind ≠ .general ∧ kind ≠ f.kind) ∧ v = .success w))
  /-- An operation that is to store a fault stores it, changes nothing else and returns. Only a new
  fault that cannot be written is not stored. -/
  stored {r : Request} {t : Environment} {f : Fault} (fault : r.fault? t = some f)
    (written : f.holdsLong = true → r = .throw f) :
    (Interpretation.simulated server).Ends (.ask r) t (.ok .none)
      [.asked r .none (.environment { t with captured := some f })] { t with captured := some f }
  /-- A run that returns has gone through the whole of every sub-program that it came to. -/
  executed {before events : List Event} {q : Program} {t w : Environment} {v : Value}
    (comes : (Interpretation.simulated server).Comes p s before q t)
    (ended : (Interpretation.simulated server).Ends p s (.ok v) events w) :
    ∃ result inner u after, (Interpretation.simulated server).Ends q t (.ok result) inner u ∧
      events = before ++ (inner ++ after)
  /-- A run that is stopped comes to a place that stops, whatever the register holds. -/
  stopped {error : Error} (h : p.simulate server s = .error error) :
    ∃ before q t, (Interpretation.simulated server).Comes p s before q t ∧ q.Stops server t error

theorem FaultKind.covers_iff {wanted kind : FaultKind} :
    wanted.covers kind = true ↔ wanted = .general ∨ wanted = kind := by
  rw [covers, Bool.or_eq_true, beq_iff_eq, beq_iff_eq]

/-- What an attempt returns, by what the register holds at its end. -/
theorem Environment.attempted_iff {kind : FaultKind} {u : Environment} {v w : Value} :
    v = u.attempted kind w ↔
      (∃ f, u.captured = some f ∧ (kind = .general ∨ kind = f.kind) ∧ v = .failure (.fault f)) ∨
        ((∀ f, u.captured = some f → kind ≠ .general ∧ kind ≠ f.kind) ∧ v = .success w) := by
  unfold Environment.attempted
  cases held : u.captured with
  | none => simp
  | some f =>
    simp only [Option.some.injEq, exists_eq_left', forall_eq', ← not_or]
    by_cases wanted : kind = .general ∨ kind = f.kind
    · have covered := FaultKind.covers_iff.mpr wanted
      simp only [covered, wanted, ↓reduceIte, true_and, not_true, false_and, or_false]
    · have other := mt FaultKind.covers_iff.mp wanted
      simp only [other, wanted, ↓reduceIte, Bool.false_eq_true, false_and, not_false_eq_true,
        true_and, false_or]

theorem Program.run_registers (server : Responder) (p : Program) (s : Environment)
    (keeps : p.All Request.KeepsEnvironment) : Registers server p s where
  reached comes := (comes.trail keeps).2.lastWritten
  left comes ended := by
    obtain ⟨inner, before⟩ := comes.trail keeps
    exact (before.append (Interpretation.ends_trail inner ended)).lastWritten
  between ended := by
    obtain ⟨u, before, later⟩ := (Interpretation.ends_trail keeps ended).split
    exact ⟨u, before, later, before.lastWritten⟩
  attempted := by
    intro q kind t u v inner
    rw [Interpretation.ends_attempt]
    simp only [Environment.attempted_iff]
  stored {r t f} fault written := by
    have simulated : r.simulate server t =
        .ok (.none, .environment { t with captured := some f }) :=
      Request.simulate_fault fault written
    refine ⟨_, rfl, ?_⟩
    rw [Program.trace, simulated]
    rfl
  executed comes ended := by
    have scopes := (Interpretation.simulated_lawful server).scopes keeps s
    obtain ⟨result, inner, u, after, ⟨v, rfl, traced⟩, split⟩ := scopes.piece comes ended
    exact ⟨v, inner, u, after, ⟨v, rfl, traced⟩, split⟩
  stopped h := p.stops_of_error keeps h

/-- The fault of a load when no contents are queued. -/
def unqueued : Fault := ⟨.endOfInput, "no queued file contents", .text "notes"⟩

/-- An attempt that does not want the fault of its program, then one whose program does nothing. -/
def relapsing : Program :=
  .bind (.attempt (.ask (.loadFile (.text "notes"))) .notFound) fun first =>
    .attempt (.pure first) .general

/-- The second attempt finds the fault that the first one left. -/
theorem relapsing_registers :
    relapsing.All Request.KeepsEnvironment ∧
      ∃ events t, (Interpretation.simulated .unreachable).Ends relapsing .fresh
          (.ok (.failure (.fault unqueued))) events t ∧
        LastWritten .unreachable .fresh events t ∧ t.captured = some unqueued := by
  have keeps : relapsing.All Request.KeepsEnvironment := by
    simp [relapsing, Program.All, Request.KeepsEnvironment]
  have registers := relapsing.run_registers .unreachable .fresh keeps
  obtain ⟨events, t, ended, captured⟩ : ∃ events t,
      (Interpretation.simulated .unreachable).Ends relapsing .fresh
        (.ok (.failure (.fault unqueued))) events t ∧ t.captured = some unqueued :=
    ⟨_, _, ⟨_, rfl, rfl⟩, rfl⟩
  exact ⟨keeps, events, t, ended, registers.left (.here _ _) ended, captured⟩

end Rehearsal
