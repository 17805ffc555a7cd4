import Rehearsal.Proofs.Run.Scope

/-!
# The exchanges of a run with its responder

Wherever in a program a request is made, the responder sees it once, in its turn, with the value
that the request before it has left. The exchange changes that value and nothing else in the
environment, whatever the answer is. An answer that is no result stops the run.
-/

namespace Rehearsal

/-- What a responder has to answer with. -/
def Value.IsResult (v : Value) : Prop := (∃ w, v = .success w) ∨ ∃ w, v = .failure w

/-- Answers requests in turn, each with the value that the one before it has left. -/
def Responder.serve (server : Responder) : Value → List HttpRequest → Outcome (List Value × Value)
  | kept, [] => .ok ([], kept)
  | kept, request :: rest => do
    let (answer, next) ← server.answer kept request
    let (answers, last) ← server.serve next rest
    return (answer :: answers, last)

theorem Responder.serve_cons {server : Responder} {kept answer next last : Value}
    {request : HttpRequest} {rest : List HttpRequest} {answers : List Value}
    (first : server.answer kept request = .ok (answer, next))
    (later : server.serve next rest = .ok (answers, last)) :
    server.serve kept (request :: rest) = .ok (answer :: answers, last) := by
  rw [serve, first]
  show ((server.serve next rest).bind fun (answers, last) => .ok (answer :: answers, last)) = _
  rw [later]
  rfl

namespace Event

def requests : Event → List HttpRequest
  | .asked (.http request _) _ _ => [request]
  | _ => []

def answers : Event → List Value
  | .asked (.http _ _) v _ => [v]
  | _ => []

end Event

/-- What a run with a responder exchanges, from the environment before it to the one after it. -/
structure Exchanges (server : Responder) (s : Environment) (events : List Event)
    (t : Environment) : Prop where
  /-- The answers and the value that is kept are those of the requests alone, in their order. -/
  served : server.serve s.clientLocal (events.flatMap Event.requests) =
    .ok (events.flatMap Event.answers, t.clientLocal)
  results : ∀ answer ∈ events.flatMap Event.answers, answer.IsResult
  /-- A request leaves everything but the value that is kept as it was at that moment. -/
  frame : ∀ before request session answer left later,
    events = before ++ .asked (.http request session) answer left :: later →
      ∃ u kept, Trail server s before u ∧ server.answer u.clientLocal request = .ok (answer, kept) ∧
        left = .environment { u with clientLocal := kept } ∧
        Trail server { u with clientLocal := kept } later t

namespace Request

/-- Requests that leave what is kept for the server to the responder. -/
def KeepsLocal : Request → Prop
  | .putEnvironment _ | .putLocal _ => False
  | _ => True

theorem KeepsLocal.keepsEnvironment {r : Request} (h : r.KeepsLocal) : r.KeepsEnvironment := by
  cases r with
  | putEnvironment => exact h.elim
  | _ => trivial

end Request

section Steps

variable {server : Responder} {s t : Environment} {event : Event}

/-- A step that is no exchange keeps what is kept for the server. -/
theorem Step.quiet (h : Step server s event t) (keeps : event.All Request.KeepsLocal)
    (quiet : event.requests = []) : event.answers = [] ∧ t.clientLocal = s.clientLocal := by
  cases h with
  | ticked h =>
    obtain ⟨clock, _, rfl⟩ := Environment.advance_ok h
    exact ⟨rfl, rfl⟩
  | @asked r v _ answers =>
    cases r with
    | http request session => cases quiet
    | putLocal v => exact keeps.elim
    | _ => exact ⟨rfl, rfl⟩
  | _ => exact ⟨rfl, rfl⟩

/-- The responder is asked with the value that is kept, and nothing but that value changes. -/
theorem Step.exchange {request : HttpRequest} {session answer : Value} {left : Aftermath}
    (h : Step server s (.asked (.http request session) answer left) t) :
    server.answer s.clientLocal request = .ok (answer, t.clientLocal) ∧ answer.IsResult ∧
      t = { s with clientLocal := t.clientLocal } ∧ left = .environment t := by
  cases h with
  | asked keeps answers =>
    obtain ⟨given, result⟩ := answers
    rw [Outcome.map_eq_ok] at given
    obtain ⟨⟨_, kept⟩, asked, rfl⟩ := given
    have stored : (Request.after server s (.http request session)).clientLocal = kept := by
      simp [Request.after, asked, Except.toOption]
    refine ⟨?_, result, ?_, rfl⟩
    · rw [stored, asked]
    · simp [Request.after, Generator.draws]

/-- An event is an exchange or it is quiet. -/
theorem Event.exchange_cases (event : Event) :
    (∃ request session answer left, event = .asked (.http request session) answer left) ∨
      event.requests = [] := by
  cases event with
  | asked r v left =>
    cases r with
    | http request session => exact Or.inl ⟨request, session, v, left, rfl⟩
    | _ => exact Or.inr rfl
  | _ => exact Or.inr rfl

end Steps

namespace Trail

variable {server : Responder} {s t : Environment} {events : List Event}

/-- By induction along the trail: each exchange begins with the value that the one before it left,
since no other step changes it. -/
theorem served (h : Trail server s events t)
    (keeps : ∀ event ∈ events, event.All Request.KeepsLocal) :
    server.serve s.clientLocal (events.flatMap Event.requests) =
        .ok (events.flatMap Event.answers, t.clientLocal) ∧
      ∀ answer ∈ events.flatMap Event.answers, answer.IsResult := by
  induction h with
  | nil => exact ⟨rfl, nofun⟩
  | @cons s u t event events step _ ih =>
    obtain ⟨now, later⟩ := List.forall_mem_cons.mp keeps
    obtain ⟨served, results⟩ := ih later
    rw [List.flatMap_cons, List.flatMap_cons]
    obtain ⟨request, session, answer, left, rfl⟩ | quiet := event.exchange_cases
    · obtain ⟨asked, result, _, _⟩ := step.exchange
      exact ⟨Responder.serve_cons asked served, List.forall_mem_cons.mpr ⟨result, results⟩⟩
    · obtain ⟨silent, same⟩ := step.quiet now quiet
      rw [quiet, silent, List.nil_append, List.nil_append, ← same]
      exact ⟨served, results⟩

/-- Every trail whose requests leave the kept value to the responder is a series of exchanges. -/
theorem exchanges (h : Trail server s events t)
    (keeps : ∀ event ∈ events, event.All Request.KeepsLocal) : Exchanges server s events t where
  served := (h.served keeps).1
  results := (h.served keeps).2
  frame := by
    rintro before request session answer left later rfl
    obtain ⟨u, first, rest⟩ := h.split
    cases rest with
    | @cons _ w _ _ _ step after =>
      obtain ⟨asked, _, changed, hl⟩ := step.exchange
      refine ⟨u, w.clientLocal, first, asked, ?_, ?_⟩
      · rw [hl, ← changed]
      · rwa [← changed]

end Trail

namespace Interpretation.Comes

variable {server : Responder} {P : Request → Prop} {p q : Program} {s t : Environment}
  {before : List Event}

/-- The way to a sub-program is a trail of what the program asks for before it. -/
theorem walks (comes : (simulated server).Comes p s before q t)
    (keeps : ∀ r, P r → r.KeepsEnvironment) (all : p.All P) :
    Trail server s before t ∧ ∀ event ∈ before, event.All P := by
  have walked {p : Program} {s u : Environment} {v : Value} {done : List Event} (all : p.All P)
      (ended : (simulated server).Ends p s (.ok v) done u) :
      Trail server s done u ∧ ∀ event ∈ done, event.All P := by
    obtain ⟨_, _, traced⟩ := ended
    obtain ⟨u', hu, _, trail⟩ := p.trace_walks (Program.All.mono keeps p all) traced
    cases hu
    exact ⟨trail, p.trace_all all traced⟩
  induction comes with
  | here p s => exact ⟨.nil s, nofun⟩
  | first _ ih => exact ih all.1
  | @next p q next s u w t v done ticks before ended entered _ ih =>
    obtain ⟨trail, kept⟩ := walked all.1 ended
    obtain ⟨rest, later⟩ := ih (all.2 v)
    obtain ⟨rfl, enters⟩ := entered
    obtain ⟨_, _, hu, tick⟩ := Program.enter_ok.mp enters
    cases hu
    rw [List.append_assoc]
    refine ⟨trail.andThen tick rest, ?_⟩
    simp only [List.forall_mem_append, List.forall_mem_singleton]
    exact ⟨kept, trivial, later⟩
  | mapped _ ih => exact ih all
  | attempted _ ih => exact ih all
  | @nested p q name s t before _ ih =>
    obtain ⟨trail, kept⟩ := ih all
    exact ⟨.cons (.opened s name) trail, List.forall_mem_cons.mpr ⟨trivial, kept⟩⟩
  | yielded _ ih => exact ih all.1
  | @resumed p q next s u w t v done ticks before ended resumes _ ih =>
    obtain ⟨trail, kept⟩ := walked all.1 ended
    obtain ⟨rest, later⟩ := ih (all.2 v)
    obtain ⟨rfl, tick⟩ := resumes
    rw [List.append_assoc]
    refine ⟨trail.andThen tick rest, ?_⟩
    simp only [List.forall_mem_append, List.forall_mem_singleton]
    exact ⟨kept, trivial, later⟩

/-- Nothing around a sub-program keeps its error from stopping the run. -/
theorem stops (comes : (simulated server).Comes p s before q t) {error : Error}
    (stopped : q.simulate server t = .error error) : p.simulate server s = .error error := by
  induction comes with
  | here => exact stopped
  | first _ ih =>
    rw [Program.simulate, ih stopped]
    rfl
  | next ended entered _ ih =>
    obtain ⟨_, hv, traced⟩ := ended
    cases hv
    rw [Program.simulate, Program.simulate_of_trace traced]
    simp only [bind, Except.bind, entered.2]
    exact ih stopped
  | mapped _ ih =>
    rw [Program.simulate, ih stopped]
    rfl
  | attempted _ ih =>
    rw [Program.simulate, ih stopped]
    rfl
  | nested _ ih =>
    have inner := ih stopped
    rw [Program.simulate]
    simp only [simulated] at inner
    rw [inner]
    rfl
  | yielded _ ih =>
    have inner := ih stopped
    rw [Program.simulate, Body.simulate, inner]
    rfl
  | resumed ended resumes _ ih =>
    obtain ⟨_, hv, traced⟩ := ended
    cases hv
    have later := ih stopped
    rw [Program.simulate] at later ⊢
    rw [Body.simulate, Program.simulate_of_trace traced]
    simp only [bind, Except.bind, Aftermath.require, resumes.2]
    exact later

end Interpretation.Comes

theorem Environment.respond_refused {server : Responder} {request : HttpRequest}
    {e : Environment} {answer kept : Value}
    (asked : server.answer e.clientLocal request = .ok (answer, kept)) (none : ¬answer.IsResult) :
    e.respond server request = .error (.mismatch (.answer request.method)) := by
  simp only [respond, asked, bind, Except.bind]
  cases answer with
  | success w => exact (none (Or.inl ⟨w, rfl⟩)).elim
  | failure w => exact (none (Or.inr ⟨w, rfl⟩)).elim
  | _ => rfl

/-- The responder answers the requests of a run in turn and nothing else comes of them. This holds
of a run that returns, and of what precedes any request that a run comes to; the run stops there if
the answer is no result. -/
theorem Program.simulate_exchanges (server : Responder) (p : Program) (s : Environment)
    (keeps : p.All Request.KeepsLocal) :
    (∀ v after, p.simulate server s = .ok (v, after) →
      ∃ t events, after = .environment t ∧ p.trace server s = .ok ⟨v, after, events⟩ ∧
        Exchanges server s events t) ∧
    ∀ before request session u,
      (Interpretation.simulated server).Comes p s before (.ask (.http request session)) u →
        Exchanges server s before u ∧
        ∀ answer kept, server.answer u.clientLocal request = .ok (answer, kept) →
          ¬answer.IsResult → p.simulate server s = .error (.mismatch (.answer request.method)) := by
  have keepsEnvironment : ∀ r : Request, r.KeepsLocal → r.KeepsEnvironment :=
    fun _ => Request.KeepsLocal.keepsEnvironment
  constructor
  · intro v after h
    obtain ⟨events, traced⟩ := Program.trace_of_simulate h
    obtain ⟨t, ht, _, trail⟩ := p.trace_walks (Program.All.mono keepsEnvironment p keeps) traced
    exact ⟨t, events, ht, traced, trail.exchanges (p.trace_all keeps traced)⟩
  · intro before request session u comes
    obtain ⟨trail, kept⟩ := comes.walks keepsEnvironment keeps
    refine ⟨trail.exchanges kept, fun answer next asked none => comes.stops ?_⟩
    rw [Program.simulate, Request.simulate, Environment.respond_refused asked none]
    rfl

/-- Gets a page under a label and an attempt, then deletes it. -/
def polling : Program :=
  .bind (.attempt (.nest (.text "poll") (.ask (.http ⟨.get, .text "/page", []⟩ .none))) .general)
    fun _ => .ask (.http ⟨.delete, .text "/page", []⟩ .none)

theorem polling_exchanges :
    polling.All Request.KeepsLocal ∧
      (∃ v t events, polling.simulate .counting (.start none (.int 0)) = .ok (v, .environment t) ∧
        Exchanges .counting (.start none (.int 0)) events t) ∧
      polling.simulate (.scripted fun _ => [.text "gone"]) (.start none (.list [])) =
        .error (.mismatch (.answer .get)) := by
  have keeps : polling.All Request.KeepsLocal := ⟨trivial, fun _ => trivial⟩
  constructor
  · exact keeps
  constructor
  · have returns :
        (polling.simulate .counting (.start none (.int 0))).toOption.isSome = true := by
      decide +kernel
    cases h : polling.simulate .counting (.start none (.int 0)) with
    | error e =>
      rw [h] at returns
      cases returns
    | ok result =>
      obtain ⟨t, events, left, _, exchanges⟩ :=
        (polling.simulate_exchanges .counting (.start none (.int 0)) keeps).1 _ _ h
      exact ⟨result.1, t, events, by rw [← left], exchanges⟩
  · -- The request is the first thing that the run comes to, under the attempt and the label.
    have comes := (polling.simulate_exchanges (.scripted fun _ => [.text "gone"])
      (.start none (.list [])) keeps).2 _ _ _ _ (.first (.attempted (.nested (.here _ _))))
    exact comes.2 _ _ rfl nofun

end Rehearsal
