import Rehearsal.Proofs.Run.Trace

/-!
# What one request does

`Request.after` says for every field of an environment what carrying out a request makes of it, and
`Request.Answers` says what the request answers. Together they describe every request but the one
that puts another environment in place, so no later proof looks inside the operations of an
environment.
-/

namespace Rehearsal

namespace Request

/-- Whether the environment stays the one that the run started in. -/
def KeepsEnvironment : Request → Prop
  | .putEnvironment _ => False
  | _ => True

/-- How many lines the request takes from the console. -/
@[simp]
def linesTaken : Request → Nat
  | .getLine _ => 1
  | _ => 0

/-- How many files the request takes, if there are any. -/
@[simp]
def filesTaken (e : Environment) : Request → Nat
  | .loadFile _ => if e.fileExists then 1 else 0
  | _ => 0

/-- What the request writes to the standard output. -/
@[simp]
def printed : Request → List Value
  | .put handle text => if handle.same (.handle .stdout) then [text] else []
  | _ => []

/-- What the request writes to another handle, with the name of the handle. -/
@[simp]
def logged : Request → List (String × Value)
  | .put handle text =>
    if handle.same (.handle .stdout) then [] else (handle.name.toOption.map (·, text)).toList
  | _ => []

/-- The contents that the request stores, if there is room. -/
@[simp]
def saved (e : Environment) : Request → List Text.Bytes
  | .saveFile _ contents => if e.fileFull then [] else contents.toBytes.toOption.toList
  | _ => []

@[simp]
def recorded : Request → List Assertion
  | .record a => [a]
  | _ => []

/-- How many numbers the request draws. -/
@[simp]
def draws : Request → Nat
  | .randomInt | .randomBetween _ _ => 1
  | _ => 0

/-- The fault that the request stores in an environment. -/
@[simp]
def fault? (e : Environment) : Request → Option Fault
  | .throw f => some f
  | .loadFile path =>
    if !e.fileExists then some ⟨.notFound, "file does not exist", path⟩
    else if e.fileIn.isEmpty then some ⟨.endOfInput, "no queued file contents", path⟩ else none
  | .saveFile path _ => if e.fileFull then some ⟨.storageFull, "storage is full", path⟩ else none
  | _ => none

/-- The last fault once the request is done. -/
@[simp]
def capturedAfter (e : Environment) : Request → Option Fault
  | .clearFault => none
  | r => (r.fault? e).or e.captured

@[simp]
def echoAfter (e : Environment) : Request → Bool
  | .setEcho _ on => on
  | _ => e.echo

/-- What is kept for the server once the request is done. -/
@[simp]
def localAfter (server : Responder) (e : Environment) : Request → Value
  | .putLocal v => v
  | .http request _ =>
    ((server.answer e.clientLocal request).toOption.map (·.2)).getD e.clientLocal
  | _ => e.clientLocal

/-- The environment once the request is done. -/
def after (server : Responder) (e : Environment) (r : Request) : Environment :=
  { e with
    clientLocal := r.localAfter server e
    printLog := r.logged.reverse ++ e.printLog
    consoleOut := r.printed.reverse ++ e.consoleOut
    consoleQueue := e.consoleQueue.drop r.linesTaken
    captured := r.capturedAfter e
    fileOut := (r.saved e).reverse ++ e.fileOut
    fileIn := e.fileIn.drop (r.filesTaken e)
    generator := (e.generator.draws r.draws).2
    echo := r.echoAfter e
    assertions := e.assertions ++ r.recorded }

/-- What a request may answer with, and what has held if it was carried out. -/
def Answers (server : Responder) (e : Environment) (v : Value) : Request → Prop
  | .getEcho _ => v = .bool e.echo
  | .getChar _ => v = e.consoleChar
  | .getLine _ => v = e.consoleQueue.headD e.consoleDefault
  | .put handle _ =>
    v = .none ∧ (handle.same (.handle .stdout) = false → ∃ name, handle.name = .ok name)
  | .systemTime => v = .instant e.clock
  | .fileExists _ => v = .bool e.fileExists
  | .loadFile _ => v = if e.fileExists then e.fileIn.headD .none else .none
  | .saveFile _ contents =>
    v = .none ∧ (e.fileFull = false → ∃ bytes, contents.toBytes = .ok bytes)
  | .randomInt => v = .int e.generator.randomInt.1
  | .randomBetween a b => (e.generator.between a b).map (·.1) = .ok v
  | .http request _ =>
    (server.answer e.clientLocal request).map (·.1) = .ok v ∧
      ((∃ w, v = .success w) ∨ ∃ w, v = .failure w)
  | .newSession => v = .session e.session
  | .context => ∃ w, Value.renderContext e.context = .ok w ∧ v = .text w
  | .captured => v = .ofOption (e.captured.map .fault)
  | .getEnvironment => v = .environment e
  | _ => v = .none

end Request

namespace Environment

variable (server : Responder)

@[simp]
theorem put_stdout (text : Value) (e : Environment) :
    e.put (.handle .stdout) text = .ok { e with consoleOut := text :: e.consoleOut } := by
  simp [put, Value.same]

@[simp]
theorem put_stderr (text : Value) (e : Environment) :
    e.put (.handle .stderr) text =
      .ok { e with printLog := (Handle.name .stderr, text) :: e.printLog } := by
  have other : (Value.handle .stderr).same (.handle .stdout) = false := by
    simp only [Value.same]
    decide
  rw [put, other]
  rfl

theorem with_context {e : Environment} {context : List Value}
    (h : e.context = context) : { e with context } = e := by
  cases h
  cases e
  rfl

/-- The clock does not look at the context. -/
theorem advance_context (e : Environment) (context : List Value) :
    ({ e with context } : Environment).advance =
      e.advance.map fun t => { t with context } := by
  unfold advance
  dsimp only
  cases e.clock.add? e.tick <;> rfl

/-- A tick moves nothing but the clock. -/
theorem advance_ok {e t : Environment} (h : e.advance = .ok t) :
    ∃ clock, e.clock.add? e.tick = some clock ∧ t = { e with clock } := by
  unfold advance at h
  split at h
  · next clock hc =>
    cases h
    exact ⟨clock, hc, rfl⟩
  · cases h

theorem put_ok {handle text : Value} {e t : Environment} (h : e.put handle text = .ok t) :
    (Request.put handle text).Answers server e .none ∧
    t = { e with
      consoleOut := (Request.printed (.put handle text)).reverse ++ e.consoleOut
      printLog := (Request.logged (.put handle text)).reverse ++ e.printLog } := by
  unfold put at h
  cases hs : handle.same (.handle .stdout) with
  | true =>
    simp only [hs, ↓reduceIte, Except.ok.injEq] at h
    simp [← h, Request.Answers, hs]
  | false =>
    simp only [hs, Bool.false_eq_true, ↓reduceIte, Outcome.bind_eq_ok, Outcome.pure_eq_ok] at h
    obtain ⟨name, hn, rfl⟩ := h
    simp [Request.Answers, hs, hn, Except.toOption]

theorem failing_ok {kind : FaultKind} {message : String} {path v : Value} {e t : Environment}
    (h : e.failing kind message path = .ok (v, t)) :
    v = .none ∧ t = { e with captured := some ⟨kind, message, path⟩ } := by
  simp only [failing, Fault.make, Outcome.bind_eq_ok, Outcome.pure_eq_ok] at h
  obtain ⟨f, hf, h⟩ := h
  split at hf
  · cases hf
  · cases hf
    cases h
    exact ⟨rfl, rfl⟩

theorem loadFile_ok {path v : Value} {e t : Environment} (h : e.loadFile path = .ok (v, t)) :
    (Request.loadFile path).Answers server e v ∧
    t = { e with
      captured := ((Request.loadFile path).fault? e).or e.captured
      fileIn := e.fileIn.drop ((Request.loadFile path).filesTaken e) } := by
  unfold loadFile at h
  cases hx : e.fileExists with
  | false =>
    simp only [hx, Bool.not_false, ↓reduceIte] at h
    simpa [Request.Answers, hx] using failing_ok h
  | true =>
    cases hq : e.fileIn with
    | nil =>
      simp only [hx, hq, Bool.not_true, Bool.false_eq_true, ↓reduceIte] at h
      simpa [Request.Answers, hx, hq] using failing_ok h
    | cons contents rest =>
      simp only [hx, hq, Bool.not_true, Bool.false_eq_true, ↓reduceIte, Except.ok.injEq,
        Prod.mk.injEq] at h
      obtain ⟨rfl, rfl⟩ := h
      simp [Request.Answers, hx, hq]

theorem saveFile_ok {path contents v : Value} {e t : Environment}
    (h : e.saveFile path contents = .ok (v, t)) :
    (Request.saveFile path contents).Answers server e v ∧
    t = { e with
      captured := ((Request.saveFile path contents).fault? e).or e.captured
      fileOut := ((Request.saveFile path contents).saved e).reverse ++ e.fileOut } := by
  unfold saveFile at h
  cases hf : e.fileFull with
  | true =>
    simp only [hf, ↓reduceIte] at h
    simpa [Request.Answers, hf] using failing_ok h
  | false =>
    simp only [hf, Bool.false_eq_true, ↓reduceIte, Outcome.bind_eq_ok, Outcome.pure_eq_ok,
      Prod.mk.injEq] at h
    obtain ⟨bytes, hb, rfl, rfl⟩ := h
    simp [Request.Answers, hf, hb, Except.toOption]

theorem respond_ok {request : HttpRequest} (session : Value) {v : Value}
    {e t : Environment} (h : e.respond server request = .ok (v, t)) :
    (Request.http request session).Answers server e v ∧
    t = { e with clientLocal := (Request.http request session).localAfter server e } := by
  simp only [respond, Outcome.bind_eq_ok] at h
  obtain ⟨⟨answer, kept⟩, ha, h⟩ := h
  simp only [Request.Answers, Request.localAfter, ha]
  cases answer with
  | success w =>
    cases h
    exact ⟨⟨rfl, Or.inl ⟨w, rfl⟩⟩, rfl⟩
  | failure w =>
    cases h
    exact ⟨⟨rfl, Or.inr ⟨w, rfl⟩⟩, rfl⟩
  | _ => cases h

theorem drawBetween_ok {a b v : Value} {e t : Environment} (h : e.drawBetween a b = .ok (v, t)) :
    (e.generator.between a b).map (·.1) = .ok v ∧
    t = { e with generator := (e.generator.draws 1).2 } := by
  simp only [drawBetween, Outcome.bind_eq_ok, Outcome.pure_eq_ok] at h
  obtain ⟨⟨w, g⟩, hb, h⟩ := h
  cases h
  refine ⟨by rw [hb]; rfl, ?_⟩
  simp only [Generator.between, Outcome.bind_eq_ok, Outcome.pure_eq_ok] at hb
  obtain ⟨_, _, _, _, hg⟩ := hb
  cases hg
  rfl

theorem getLine_eq (e : Environment) :
    e.getLine = (e.consoleQueue.headD e.consoleDefault,
      { e with consoleQueue := e.consoleQueue.drop 1 }) := by
  unfold getLine
  cases e with
  | mk session clientLocal printLog consoleOut consoleQueue =>
    cases consoleQueue <;> rfl

end Environment

namespace Request

/-- Every request but one answers as `Answers` says and leaves what `after` says. -/
theorem simulate_ok {server : Responder} {r : Request} {e : Environment} {v : Value}
    {left : Aftermath} (keeps : r.KeepsEnvironment) (h : r.simulate server e = .ok (v, left)) :
    r.Answers server e v ∧ left = .environment (r.after server e) := by
  cases r with
  | putEnvironment w => exact keeps.elim
  | put handle text =>
    simp only [simulate, Outcome.map_eq_ok, Outcome.bind_eq_ok, Outcome.pure_eq_ok] at h
    obtain ⟨_, ⟨t, ht, rfl⟩, h⟩ := h
    cases h
    obtain ⟨ha, rfl⟩ := Environment.put_ok server ht
    exact ⟨ha, by simp [after, Generator.draws]⟩
  | loadFile path =>
    simp only [simulate, Outcome.map_eq_ok] at h
    obtain ⟨⟨w, t⟩, ht, h⟩ := h
    cases h
    obtain ⟨ha, rfl⟩ := Environment.loadFile_ok server ht
    exact ⟨ha, by simp [after, Generator.draws]⟩
  | saveFile path contents =>
    simp only [simulate, Outcome.map_eq_ok] at h
    obtain ⟨⟨w, t⟩, ht, h⟩ := h
    cases h
    obtain ⟨ha, rfl⟩ := Environment.saveFile_ok server ht
    exact ⟨ha, by simp [after, Generator.draws]⟩
  | http request session =>
    simp only [simulate, Outcome.map_eq_ok] at h
    obtain ⟨⟨w, t⟩, ht, h⟩ := h
    cases h
    obtain ⟨ha, rfl⟩ := Environment.respond_ok server session ht
    exact ⟨ha, by simp [after, Generator.draws]⟩
  | randomBetween a b =>
    simp only [simulate, Outcome.map_eq_ok] at h
    obtain ⟨⟨w, t⟩, ht, h⟩ := h
    cases h
    obtain ⟨ha, rfl⟩ := Environment.drawBetween_ok ht
    exact ⟨ha, by simp [after]⟩
  | context =>
    simp only [simulate, Outcome.map_eq_ok, Outcome.bind_eq_ok, Outcome.pure_eq_ok] at h
    obtain ⟨_, ⟨w, hw, rfl⟩, h⟩ := h
    cases h
    cases e
    exact ⟨⟨w, hw, rfl⟩, by simp [after, Generator.draws]⟩
  | getLine handle =>
    simp only [simulate, Environment.getLine_eq, Except.map, Except.ok.injEq, Prod.mk.injEq] at h
    obtain ⟨rfl, rfl⟩ := h
    exact ⟨rfl, by simp [after, Generator.draws]⟩
  | randomInt =>
    cases h
    exact ⟨rfl, by simp [after, Generator.draws, Generator.next]⟩
  | _ =>
    cases h
    cases e
    exact ⟨rfl, by simp [after, Generator.draws, Environment.capture]⟩

end Request

end Rehearsal
