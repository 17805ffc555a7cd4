import Rehearsal.Proofs.Run.Clock

/-!
# What a program shares with others

The operations of a program read and write some parts of an environment, its resources; everything
else they leave alone, and they do not look at it. What a request does is followed through every
form of a program: a run depends on the resources of its program only, and changes nothing else but
the clock, which moves by as many ticks wherever the run starts.
-/

namespace Rehearsal

/-- A part of an environment that operations read and write. -/
inductive Resource where
  | consoleIn
  | consoleOut
  | printLog
  | fileIn
  | fileOut
  | generator
  | clientLocal
  | echo
  | captured
  | assertions
deriving DecidableEq, Repr

namespace Resource

/-- The part is the same in both environments. -/
def Same (e f : Environment) : Resource → Prop
  | consoleIn => e.consoleQueue = f.consoleQueue
  | consoleOut => e.consoleOut = f.consoleOut
  | printLog => e.printLog = f.printLog
  | fileIn => e.fileIn = f.fileIn
  | fileOut => e.fileOut = f.fileOut
  | generator => e.generator = f.generator
  | clientLocal => e.clientLocal = f.clientLocal
  | echo => e.echo = f.echo
  | captured => e.captured = f.captured
  | assertions => e.assertions = f.assertions

namespace Same

variable {x : Resource} {e f g : Environment}

theorem refl (x : Resource) (e : Environment) : x.Same e e := by
  cases x <;> rfl

theorem symm (h : x.Same e f) : x.Same f e := by
  cases x <;> exact Eq.symm h

theorem trans (h : x.Same e f) (k : x.Same f g) : x.Same e g := by
  cases x <;> exact Eq.trans h k

end Same

end Resource

namespace Request

/-- The resources that carrying out a request reads or writes. -/
@[simp]
def resources : Request → List Resource
  | .getEcho _ | .setEcho _ _ => [.echo]
  | .getLine _ => [.consoleIn]
  | .put handle _ => if handle.same (.handle .stdout) then [.consoleOut] else [.printLog]
  | .loadFile _ => [.fileIn, .captured]
  | .saveFile _ _ => [.fileOut, .captured]
  | .randomInt | .randomBetween _ _ => [.generator]
  | .http _ _ | .putLocal _ => [.clientLocal]
  | .record _ => [.assertions]
  | .captured | .clearFault | .throw _ => [.captured]
  | _ => []

/-- Requests that see or replace no more than their resources: not the environment as a whole, and
not the time. -/
def Isolated : Request → Prop
  | .getEnvironment | .putEnvironment _ | .systemTime => False
  | _ => True

theorem Isolated.keepsEnvironment {r : Request} (h : r.Isolated) : r.KeepsEnvironment := by
  cases r with
  | putEnvironment => exact h.elim
  | _ => trivial

end Request

mutual

/-- Some operation that occurs in the program reads or writes the resource. -/
def Program.Touches (x : Resource) : Program → Prop
  | .pure _ | .fail _ => False
  | .ask r => x ∈ r.resources
  | .bind p next => p.Touches x ∨ ∃ v, (next v).Touches x
  | .map p _ => p.Touches x
  | .body b => b.Touches x
  | .attempt p _ => x = .captured ∨ p.Touches x
  | .nest _ p => p.Touches x

def Body.Touches (x : Resource) : Body → Prop
  | .done _ | .raise _ => False
  | .yield p next => p.Touches x ∨ ∃ v, (next v).Touches x

end

namespace Environment

/-- Two environments that differ in their clocks and in other resources at most. -/
structure AgreeOn (R : Resource → Prop) (e f : Environment) : Prop where
  resources : ∀ x, R x → x.Same e f
  session : e.session = f.session
  consoleDefault : e.consoleDefault = f.consoleDefault
  tick : e.tick = f.tick
  fileExists : e.fileExists = f.fileExists
  fileFull : e.fileFull = f.fileFull
  consoleChar : e.consoleChar = f.consoleChar
  context : e.context = f.context

namespace AgreeOn

variable {R S : Resource → Prop} {e f g : Environment}

theorem refl (R : Resource → Prop) (e : Environment) : AgreeOn R e e where
  resources x _ := .refl x e
  session := rfl
  consoleDefault := rfl
  tick := rfl
  fileExists := rfl
  fileFull := rfl
  consoleChar := rfl
  context := rfl

theorem symm (h : AgreeOn R e f) : AgreeOn R f e where
  resources x hx := Resource.Same.symm (h.resources x hx)
  session := h.session.symm
  consoleDefault := h.consoleDefault.symm
  tick := h.tick.symm
  fileExists := h.fileExists.symm
  fileFull := h.fileFull.symm
  consoleChar := h.consoleChar.symm
  context := h.context.symm

theorem trans (h : AgreeOn R e f) (k : AgreeOn R f g) : AgreeOn R e g where
  resources x hx := Resource.Same.trans (h.resources x hx) (k.resources x hx)
  session := h.session.trans k.session
  consoleDefault := h.consoleDefault.trans k.consoleDefault
  tick := h.tick.trans k.tick
  fileExists := h.fileExists.trans k.fileExists
  fileFull := h.fileFull.trans k.fileFull
  consoleChar := h.consoleChar.trans k.consoleChar
  context := h.context.trans k.context

theorem mono (h : AgreeOn R e f) (hs : ∀ x, S x → R x) : AgreeOn S e f :=
  { h with resources := fun x hx => h.resources x (hs x hx) }

theorem inContext (h : AgreeOn R e f) (context : List Value) :
    AgreeOn R { e with context } { f with context } where
  resources x hx := by
    have same := h.resources x hx
    cases x <;> exact same
  session := h.session
  consoleDefault := h.consoleDefault
  tick := h.tick
  fileExists := h.fileExists
  fileFull := h.fileFull
  consoleChar := h.consoleChar
  context := rfl

/-- The context of the surroundings is put back. -/
theorem back {context : List Value} (h : AgreeOn R { e with context } f) :
    AgreeOn R e { f with context := e.context } where
  resources x hx := by
    have same := h.resources x hx
    cases x <;> exact same
  session := h.session
  consoleDefault := h.consoleDefault
  tick := h.tick
  fileExists := h.fileExists
  fileFull := h.fileFull
  consoleChar := h.consoleChar
  context := rfl

/-- A tick changes no resource. -/
theorem advance (h : e.advance = .ok f) : AgreeOn R e f := by
  obtain ⟨clock, _, rfl⟩ := advance_ok h
  refine { refl R e with resources := fun x _ => ?_ }
  cases x <;> rfl

/-- Environments that agree on all resources and on the clock are one. -/
theorem eq (h : ∀ x : Resource, x.Same e f) (fixed : AgreeOn R e f) (clock : e.clock = f.clock) :
    e = f := by
  obtain ⟨_, hs, hd, ht, hx, hf, hc, hk⟩ := fixed
  have queue := h .consoleIn
  have out := h .consoleOut
  have log := h .printLog
  have files := h .fileIn
  have saved := h .fileOut
  have gen := h .generator
  have kept := h .clientLocal
  have echo := h .echo
  have fault := h .captured
  have claims := h .assertions
  cases e
  cases f
  simp only [Resource.Same] at *
  simp only [*]

end AgreeOn

end Environment

namespace Request

variable {server : Responder} {r : Request} {R : Resource → Prop} {e f : Environment}

/-- The answer of a request, or its error, depends on its resources only. -/
theorem answer_congr (server : Responder) (isolated : r.Isolated) (within : ∀ x ∈ r.resources, R x)
    (h : Environment.AgreeOn R e f) :
    (r.simulate server e).map (·.1) = (r.simulate server f).map (·.1) := by
  have read (x : Resource) (hx : x ∈ r.resources) : x.Same e f := h.resources x (within x hx)
  cases r with
  | getEcho =>
    have echo : e.echo = f.echo := read .echo (by simp)
    simp only [simulate, echo, Except.map]
  | getChar => simp only [simulate, h.consoleChar, Except.map]
  | getLine =>
    have queue : e.consoleQueue = f.consoleQueue := read .consoleIn (by simp)
    simp only [simulate, Environment.getLine_eq, queue, h.consoleDefault, Except.map]
  | put handle text =>
    simp only [simulate, Environment.put]
    cases handle.same (.handle .stdout) with
    | true => rfl
    | false => cases handle.name <;> rfl
  | fileExists => simp only [simulate, h.fileExists, Except.map]
  | loadFile path =>
    have files : e.fileIn = f.fileIn := read .fileIn (by simp)
    simp only [simulate, Environment.loadFile, Environment.failing, h.fileExists, files]
    cases f.fileExists with
    | false => cases Fault.make .notFound "file does not exist" path <;> rfl
    | true =>
      cases f.fileIn with
      | nil => cases Fault.make .endOfInput "no queued file contents" path <;> rfl
      | cons => rfl
  | saveFile path contents =>
    simp only [simulate, Environment.saveFile, Environment.failing, h.fileFull]
    cases f.fileFull with
    | true => cases Fault.make .storageFull "storage is full" path <;> rfl
    | false => cases contents.toBytes <;> rfl
  | randomInt =>
    have generator : e.generator = f.generator := read .generator (by simp)
    simp only [simulate, Environment.drawInt, generator, Except.map]
  | randomBetween a b =>
    have generator : e.generator = f.generator := read .generator (by simp)
    simp only [simulate, Environment.drawBetween, generator]
    cases f.generator.between a b <;> rfl
  | http request =>
    have kept : e.clientLocal = f.clientLocal := read .clientLocal (by simp)
    simp only [simulate, Environment.respond, kept]
    cases server.answer f.clientLocal request with
    | error => rfl
    | ok answered =>
      obtain ⟨answer, next⟩ := answered
      cases answer <;> rfl
  | newSession => simp only [simulate, h.session, Except.map]
  | context =>
    simp only [simulate, h.context]
    cases Value.renderContext f.context <;> rfl
  | captured =>
    have captured : e.captured = f.captured := read .captured (by simp)
    simp only [simulate, captured, Except.map]
  | getEnvironment | putEnvironment | systemTime => exact isolated.elim
  | _ => rfl

/-- What a request makes of its resources depends on them only. -/
theorem after_congr (within : ∀ x ∈ r.resources, R x) (h : Environment.AgreeOn R e f) :
    Environment.AgreeOn R (r.after server e) (r.after server f) := by
  refine { h with resources := fun x hx => ?_ }
  have same := h.resources x hx
  have read (y : Resource) (hy : y ∈ r.resources) : y.Same e f := h.resources y (within y hy)
  cases x with
  | consoleIn => exact congrArg (List.drop _) same
  | consoleOut => exact congrArg (_ ++ ·) same
  | printLog => exact congrArg (_ ++ ·) same
  | fileIn =>
    have files : e.fileIn = f.fileIn := same
    cases r with
    | loadFile => simp only [Resource.Same, after, filesTaken, h.fileExists, files]
    | _ => exact same
  | fileOut =>
    have stored : e.fileOut = f.fileOut := same
    cases r with
    | saveFile => simp only [Resource.Same, after, saved, h.fileFull, stored]
    | _ => exact same
  | generator => exact congrArg (fun g : Generator => (g.draws _).2) same
  | clientLocal =>
    have kept : e.clientLocal = f.clientLocal := same
    cases r with
    | http => simp only [Resource.Same, after, localAfter, kept]
    | putLocal => rfl
    | _ => exact same
  | echo =>
    cases r with
    | setEcho => rfl
    | _ => exact same
  | captured =>
    have captured : e.captured = f.captured := same
    cases r with
    | loadFile =>
      have files : e.fileIn = f.fileIn := read .fileIn (by simp)
      simp only [Resource.Same, after, capturedAfter, fault?, h.fileExists, files, captured]
    | saveFile => simp only [Resource.Same, after, capturedAfter, fault?, h.fileFull, captured]
    | clearFault | throw => rfl
    | _ => exact same
  | assertions => exact congrArg (· ++ _) same

/-- What is no resource of a request stays as it is. -/
theorem after_frame (server : Responder) (r : Request) (e : Environment) :
    Environment.AgreeOn (· ∉ r.resources) e (r.after server e) := by
  refine ⟨fun x hx => ?_, rfl, rfl, rfl, rfl, rfl, rfl, rfl⟩
  cases r with
  | put handle text =>
    cases hs : handle.same (.handle .stdout) <;>
      cases x <;> simp_all [Resource.Same, after, Generator.draws]
  | _ => cases x <;> simp_all [Resource.Same, after, Generator.draws]

end Request

/-- A run that leaves all but some resources and the clock as they were. -/
def Run.Frames (R : Resource → Prop) (e : Environment) (run : Run) : Prop :=
  ∃ t, run.left = .environment t ∧ Environment.AgreeOn (¬ R ·) e t

/-- A step of a sequence, its tick, and the rest of it. -/
theorem Run.Frames.andThen {R : Resource → Prop} {e u w : Environment} {first second : Run}
    (hf : first.Frames R e) (left : first.left = .environment u) (tick : u.advance = .ok w)
    (hs : second.Frames R w) : (first.andThen second).Frames R e := by
  obtain ⟨u', hu, before⟩ := hf
  obtain rfl : u' = u := by simpa [left] using hu.symm
  obtain ⟨t, ht, rest⟩ := hs
  exact ⟨t, ht, before.trans ((Environment.AgreeOn.advance tick).trans rest)⟩

mutual

/-- A run leaves everything but the resources of its program and the clock as it was. -/
theorem Program.trace_frame {server : Responder} {R : Resource → Prop} :
    ∀ (p : Program) {e : Environment} {run : Run}, p.All Request.Isolated →
      (∀ x, p.Touches x → R x) → p.trace server e = .ok run → run.Frames R e
  | .pure v, e, run, _, _, h => by
    cases h
    exact ⟨e, rfl, .refl _ e⟩
  | .fail error, _, _, _, _, h => by cases h
  | .ask r, e, run, isolated, within, h => by
    obtain ⟨v, left, hr, rfl⟩ := Program.trace_ask_ok h
    obtain ⟨_, rfl⟩ := Request.simulate_ok (Request.Isolated.keepsEnvironment isolated) hr
    exact ⟨_, rfl, (r.after_frame server e).mono fun x hx touched => hx (within x touched)⟩
  | .bind p next, e, run, isolated, within, h => by
    obtain ⟨first, entered, second, hf, he, hs, rfl⟩ := Program.trace_bind_ok h
    obtain ⟨_, u, hu, tick⟩ := Program.enter_ok.mp he
    exact (p.trace_frame isolated.1 (fun x hx => within x (Or.inl hx)) hf).andThen hu tick
      ((next first.value).trace_frame (isolated.2 _) (fun x hx => within x (Or.inr ⟨_, hx⟩)) hs)
  | .map p change, e, run, isolated, within, h => by
    obtain ⟨inner, v, hi, _, rfl⟩ := Program.trace_map_ok h
    have framed : inner.Frames R e := p.trace_frame isolated within hi
    exact framed
  | .body b, e, run, isolated, within, h => b.trace_frame isolated within h
  | .attempt p kind, e, run, isolated, within, h => by
    obtain ⟨inner, left, hi, _, rfl⟩ := Program.trace_attempt_ok h
    have framed : inner.Frames R e :=
      p.trace_frame isolated (fun x hx => within x (Or.inr hx)) hi
    exact framed
  | .nest name p, e, run, isolated, within, h => by
    obtain ⟨inner, left, hi, hl, rfl⟩ := Program.trace_nest_ok h
    obtain ⟨t, ht, framed⟩ := p.trace_frame isolated within hi
    obtain rfl : t = left := by simpa [hl] using ht.symm
    exact ⟨_, rfl, framed.back⟩

theorem Body.trace_frame {server : Responder} {R : Resource → Prop} :
    ∀ (b : Body) {e : Environment} {run : Run}, b.All Request.Isolated →
      (∀ x, b.Touches x → R x) → b.trace server e = .ok run → run.Frames R e
  | .done v, e, run, _, _, h => by
    cases h
    exact ⟨e, rfl, .refl _ e⟩
  | .raise error, _, _, _, _, h => by cases h
  | .yield p next, e, run, isolated, within, h => by
    obtain ⟨first, u, resumed, second, hf, hu, tick, hs, rfl⟩ := Body.trace_yield_ok h
    exact (p.trace_frame isolated.1 (fun x hx => within x (Or.inl hx)) hf).andThen hu tick
      ((next first.value).trace_frame (isolated.2 _) (fun x hx => within x (Or.inr ⟨_, hx⟩)) hs)

end

/-- The instant that is `n` ticks ahead exists. -/
def Environment.Room (e : Environment) (n : Nat) : Prop :=
  ∃ clock, e.clock.add? (e.tick.times n) = some clock

namespace Environment.Room

theorem fewer {e : Environment} {m n : Nat} (room : e.Room n) (h : m ≤ n) : e.Room m := by
  obtain ⟨last, hl⟩ := room
  exact Time.Instant.add?_fewer hl h

/-- A tick that there is room for, and the room that it leaves. -/
theorem advance {e : Environment} {n : Nat} (room : e.Room (n + 1)) :
    ∃ t, e.advance = .ok t ∧ t.Room n := by
  obtain ⟨last, hl⟩ := room
  obtain ⟨clock, hc⟩ := Time.Instant.add?_fewer hl (Nat.le_add_left 1 n)
  have once : e.tick.times 1 = e.tick := by simp [Time.Duration.times]
  rw [once] at hc
  refine ⟨{ e with clock }, by rw [Environment.advance, hc], last, ?_⟩
  exact (Time.Instant.add?_times_succ hc n).trans hl

/-- The room that a run leaves. -/
theorem after {server : Responder} {p : Program} {e t : Environment} {run : Run} {n : Nat}
    (isolated : p.All Request.Isolated) (h : p.trace server e = .ok run)
    (left : run.left = .environment t) (room : e.Room (run.ticks + n)) : t.Room n := by
  have keeps := Program.All.mono (fun _ => Request.Isolated.keepsEnvironment) p isolated
  obtain ⟨u, hu, _, walked⟩ := p.trace_walks keeps h
  obtain rfl : u = t := by simpa [left] using hu.symm
  obtain ⟨ht, hc⟩ := walked.clock
  obtain ⟨last, hl⟩ := room
  refine ⟨last, ?_⟩
  rw [ht, Time.Instant.add?_times_add hc]
  exact hl

end Environment.Room

/-- Two runs that come to the same value in as many ticks, and to the same resources. -/
def Run.Parallels (R : Resource → Prop) (run other : Run) : Prop :=
  other.value = run.value ∧ other.ticks = run.ticks ∧
    ∃ t u, run.left = .environment t ∧ other.left = .environment u ∧ Environment.AgreeOn R t u

theorem Run.Parallels.andThen {R : Resource → Prop} {first second one two : Run}
    (hf : first.Parallels R one) (hs : second.Parallels R two) :
    (first.andThen second).Parallels R (one.andThen two) := by
  obtain ⟨hv, ht, left⟩ := hs
  refine ⟨hv, ?_, left⟩
  rw [Run.ticks_andThen, Run.ticks_andThen, hf.2.1, ht]

/-- What a first run leaves is ready for the second one wherever it ran in parallel. -/
theorem Run.Parallels.resume {server : Responder} {R : Resource → Prop} {p : Program}
    {f u w : Environment} {first one : Run} {n : Nat} (isolated : p.All Request.Isolated)
    (hf : first.Parallels R one) (traced : p.trace server f = .ok one)
    (left : first.left = .environment u) (tick : u.advance = .ok w)
    (room : f.Room (first.ticks + 1 + n)) :
    ∃ v x, one.left = .environment v ∧ v.advance = .ok x ∧ Environment.AgreeOn R w x ∧
      x.Room n := by
  obtain ⟨_, ht, u', v, hu, hv, agree⟩ := hf
  obtain rfl : u' = u := by simpa [left] using hu.symm
  have spared : f.Room (one.ticks + (n + 1)) := by
    rw [ht, Nat.add_comm n 1, ← Nat.add_assoc]
    exact room
  obtain ⟨x, hx, rest⟩ := (Environment.Room.after isolated traced hv spared).advance
  refine ⟨v, x, hv, hx, ?_, rest⟩
  exact (Environment.AgreeOn.advance tick).symm.trans
    (agree.trans (Environment.AgreeOn.advance hx))

mutual

/-- A run depends on the resources of its program only: it goes alike from every environment that
agrees on them, if the clock has room for its ticks. -/
theorem Program.trace_congr {server : Responder} {R : Resource → Prop} :
    ∀ (p : Program) {e f : Environment} {run : Run}, p.All Request.Isolated →
      (∀ x, p.Touches x → R x) → Environment.AgreeOn R e f → p.trace server e = .ok run →
        f.Room run.ticks → ∃ other, p.trace server f = .ok other ∧ run.Parallels R other
  | .pure v, e, f, run, _, _, agree, h, _ => by
    cases h
    exact ⟨_, rfl, rfl, rfl, e, f, rfl, rfl, agree⟩
  | .fail error, _, _, _, _, _, _, h, _ => by cases h
  | .ask r, e, f, run, isolated, within, agree, h, _ => by
    obtain ⟨v, left, hr, rfl⟩ := Program.trace_ask_ok h
    have keeps : r.KeepsEnvironment := Request.Isolated.keepsEnvironment isolated
    have answered := Request.answer_congr server isolated within agree
    rw [hr] at answered
    obtain ⟨⟨w, other⟩, hf, same⟩ := Outcome.map_eq_ok.mp answered.symm
    obtain rfl : w = v := same
    obtain ⟨_, rfl⟩ := Request.simulate_ok keeps hr
    obtain ⟨_, rfl⟩ := Request.simulate_ok keeps hf
    refine ⟨⟨w, _, [.asked r w (.environment (r.after server f))]⟩, ?_, rfl, rfl, _, _, rfl, rfl,
      Request.after_congr within agree⟩
    simp only [Program.trace, hf, Bind.bind, Except.bind]
    rfl
  | .bind p next, e, f, run, isolated, within, agree, h, room => by
    obtain ⟨first, entered, second, hp, he, hs, rfl⟩ := Program.trace_bind_ok h
    obtain ⟨entering, u, hu, tick⟩ := Program.enter_ok.mp he
    rw [Run.ticks_andThen] at room
    obtain ⟨one, ho, alike⟩ := p.trace_congr isolated.1 (fun x hx => within x (Or.inl hx)) agree hp
      (room.fewer (by omega))
    obtain ⟨v, x, hv, hx, ready, rest⟩ := alike.resume isolated.1 ho hu tick room
    obtain ⟨two, ht, further⟩ := (next first.value).trace_congr (isolated.2 _)
      (fun x hx => within x (Or.inr ⟨_, hx⟩)) ready hs rest
    have enters : (next first.value).enter one.left = .ok x :=
      Program.enter_ok.mpr ⟨entering, v, hv, hx⟩
    refine ⟨one.andThen two, ?_, alike.andThen further⟩
    simp only [Program.trace, ho, Bind.bind, Except.bind, alike.1, enters, ht]
    rfl
  | .map p change, e, f, run, isolated, within, agree, h, room => by
    obtain ⟨inner, v, hi, hv, rfl⟩ := Program.trace_map_ok h
    obtain ⟨other, ho, same, ticks, left⟩ := p.trace_congr isolated within agree hi room
    refine ⟨{ other with value := v }, ?_, rfl, ticks, left⟩
    simp only [Program.trace, ho, Bind.bind, Except.bind, same, hv]
    rfl
  | .body b, e, f, run, isolated, within, agree, h, room =>
    b.trace_congr isolated within agree h room
  | .attempt p kind, e, f, run, isolated, within, agree, h, room => by
    obtain ⟨inner, left, hi, hl, rfl⟩ := Program.trace_attempt_ok h
    obtain ⟨other, ho, same, ticks, t, u, ht, hu, left_agree⟩ :=
      p.trace_congr isolated (fun x hx => within x (Or.inr hx)) agree hi room
    obtain rfl : t = left := by simpa [hl] using ht.symm
    -- The attempt itself looks at the fault, which is therefore among its resources.
    have captured : t.captured = u.captured :=
      left_agree.resources .captured (within .captured (Or.inl rfl))
    have attempted : u.attempted kind other.value = t.attempted kind inner.value := by
      rw [Environment.attempted, Environment.attempted, captured, same]
    refine ⟨{ other with value := u.attempted kind other.value }, ?_, attempted, ticks, t, u, ht,
      hu, left_agree⟩
    simp only [Program.trace, ho, Bind.bind, Except.bind, hu, Aftermath.require]
    rfl
  | .nest name p, e, f, run, isolated, within, agree, h, room => by
    obtain ⟨inner, left, hi, hl, rfl⟩ := Program.trace_nest_ok h
    rw [Run.ticks_under] at room
    have inside : Environment.AgreeOn R { e with context := e.context ++ [name] }
        { f with context := f.context ++ [name] } := by
      rw [agree.context]
      exact agree.inContext _
    obtain ⟨other, ho, same, ticks, t, u, ht, hu, left_agree⟩ :=
      p.trace_congr isolated within inside hi room
    obtain rfl : t = left := by simpa [hl] using ht.symm
    refine ⟨other.under name f.context (.environment { u with context := f.context }), ?_, same,
      by rw [Run.ticks_under, Run.ticks_under, ticks], _, _, rfl, rfl, ?_⟩
    · simp only [Program.trace, ho, Bind.bind, Except.bind, hu, Aftermath.withContext]
      rfl
    · rw [agree.context]
      exact left_agree.inContext _

theorem Body.trace_congr {server : Responder} {R : Resource → Prop} :
    ∀ (b : Body) {e f : Environment} {run : Run}, b.All Request.Isolated →
      (∀ x, b.Touches x → R x) → Environment.AgreeOn R e f → b.trace server e = .ok run →
        f.Room run.ticks → ∃ other, b.trace server f = .ok other ∧ run.Parallels R other
  | .done v, e, f, run, _, _, agree, h, _ => by
    cases h
    exact ⟨_, rfl, rfl, rfl, e, f, rfl, rfl, agree⟩
  | .raise error, _, _, _, _, _, _, h, _ => by cases h
  | .yield p next, e, f, run, isolated, within, agree, h, room => by
    obtain ⟨first, u, resumed, second, hp, hu, tick, hs, rfl⟩ := Body.trace_yield_ok h
    rw [Run.ticks_andThen] at room
    obtain ⟨one, ho, alike⟩ := p.trace_congr isolated.1 (fun x hx => within x (Or.inl hx)) agree hp
      (room.fewer (by omega))
    obtain ⟨v, x, hv, hx, ready, rest⟩ := alike.resume isolated.1 ho hu tick room
    obtain ⟨two, ht, further⟩ := (next first.value).trace_congr (isolated.2 _)
      (fun x hx => within x (Or.inr ⟨_, hx⟩)) ready hs rest
    refine ⟨one.andThen two, ?_, alike.andThen further⟩
    simp only [Body.trace, ho, Bind.bind, Except.bind, hv, Aftermath.require, hx, alike.1, ht]
    rfl

end

end Rehearsal
