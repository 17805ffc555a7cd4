import Rehearsal.Program.Assert
import Rehearsal.Proofs.Run.Trail

/-!
# Interpretations

An interpretation says what the runs of programs come to, state by state and event by event. From a
few laws it follows that every sub-program is carried out in the start context with the names that
are open around it, that it leaves the context as it was however it ends, and that the assertions of
a run are those which it records. The labels of a case tree are names like any other: its
computation nests what is below them.
-/

namespace Rehearsal

/-- What an interpreter makes of programs, with states in `S` and events in `E`. -/
structure Interpretation (S E : Type) where
  /-- The run of a program from a state comes to an outcome by way of events and leaves a state. -/
  Ends : Program → S → Outcome Value → List E → S → Prop
  /-- The run goes on with a continuation. -/
  Enters : Program → S → List E → S → Prop
  /-- The run goes on with the rest of a body. -/
  Resumes : S → List E → S → Prop
  nested : Value → S → S
  opened : Value → E
  context : S → List Value
  assertions : S → List Assertion
  /-- The names that are open after an event, given those before it. -/
  scope : List Value → E → List Value
  recorded : E → List Assertion

namespace Interpretation

variable {S E : Type}

/-- The run of the first program from the first state comes to the second program in the second
state, after the events in between. -/
inductive Comes (i : Interpretation S E) : Program → S → List E → Program → S → Prop where
  | here (p : Program) (s : S) : Comes i p s [] p s
  | first {p q : Program} {next : Value → Program} {s t : S} {before : List E} :
      Comes i p s before q t → Comes i (.bind p next) s before q t
  | next {p q : Program} {next : Value → Program} {s u w t : S} {v : Value}
      {done ticks before : List E} (ended : i.Ends p s (.ok v) done u)
      (entered : i.Enters (next v) u ticks w) :
      Comes i (next v) w before q t → Comes i (.bind p next) s (done ++ ticks ++ before) q t
  | mapped {p q : Program} {change : Value → Outcome Value} {s t : S} {before : List E} :
      Comes i p s before q t → Comes i (.map p change) s before q t
  | attempted {p q : Program} {kind : FaultKind} {s t : S} {before : List E} :
      Comes i p s before q t → Comes i (.attempt p kind) s before q t
  | nested {p q : Program} {name : Value} {s t : S} {before : List E} :
      Comes i p (i.nested name s) before q t →
        Comes i (.nest name p) s (i.opened name :: before) q t
  | yielded {p q : Program} {next : Value → Body} {s t : S} {before : List E} :
      Comes i p s before q t → Comes i (.body (.yield p next)) s before q t
  | resumed {p q : Program} {next : Value → Body} {s u w t : S} {v : Value}
      {done ticks before : List E} (ended : i.Ends p s (.ok v) done u)
      (resumes : i.Resumes u ticks w) :
      Comes i (.body (next v)) w before q t →
        Comes i (.body (.yield p next)) s (done ++ ticks ++ before) q t

/-- The names that were opened and not closed, outermost first. -/
def opens (i : Interpretation S E) (events : List E) : List Value := events.foldl i.scope []

def records (i : Interpretation S E) (events : List E) : List Assertion :=
  events.flatMap i.recorded

/-- Every name that is opened is closed again. -/
def Balanced (i : Interpretation S E) (events : List E) : Prop :=
  ∀ names, events.foldl i.scope names = names

/-- The events begin with those of a whole run of the program from the state. -/
def Begins (i : Interpretation S E) (p : Program) (s : S) (events : List E) : Prop :=
  ∃ outcome inner t after, i.Ends p s outcome inner t ∧ events = inner ++ after

end Interpretation

/-- The programs that the constructors of assertions make. -/
inductive Program.Asserts : Program → Prop where
  | assertIf {holds : Bool} {statement comment : Value} {p : Program}
      (built : Program.assertIf holds statement comment = .ok p) : p.Asserts
  | success {comment : Value} {p : Program}
      (built : assertSuccess comment = .ok p) : p.Asserts
  | failure {comment : Value} {p : Program}
      (built : assertFailure comment = .ok p) : p.Asserts
  | isTrue {v comment : Value} {p : Program} (built : assertTrue v comment = .ok p) : p.Asserts
  | isFalse {v comment : Value} {p : Program} (built : assertFalse v comment = .ok p) : p.Asserts
  | equal {x y comment : Value} {p : Program}
      (built : assertEqual x y comment = .ok p) : p.Asserts
  | notEqual {x y comment : Value} {p : Program}
      (built : assertNotEqual x y comment = .ok p) : p.Asserts
  | isSubstring {x y comment : Value} {p : Program}
      (built : assertIsSubstring x y comment = .ok p) : p.Asserts
  | isNotSubstring {x y comment : Value} {p : Program}
      (built : assertIsNotSubstring x y comment = .ok p) : p.Asserts
  | isNamedSubstring {x y name comment : Value} {p : Program}
      (built : assertIsNamedSubstring x y name comment = .ok p) : p.Asserts
  | isNotNamedSubstring {x y name comment : Value} {p : Program}
      (built : assertIsNotNamedSubstring x y name comment = .ok p) : p.Asserts
  | matchesSchema {x schema comment name : Value} {p : Program}
      (built : assertMatchesSchema x schema comment name = .ok p) : p.Asserts

namespace Program

theorem assertIf_ok {holds : Bool} {statement comment : Value} {p : Program}
    (h : assertIf holds statement comment = .ok p) : ∃ s c, p = assertThat holds s c := by
  unfold assertIf at h
  split at h
  · next s c _ _ =>
    cases h
    exact ⟨s, c, rfl⟩
  · cases h

theorem assertStated_ok {holds : Bool} {statement : Outcome Wording} {comment : Value}
    {p : Program} (h : assertStated holds statement comment = .ok p) :
    ∃ s c, p = assertThat holds s c := by
  simp only [assertStated, Outcome.bind_eq_ok] at h
  obtain ⟨_, _, h⟩ := h
  exact assertIf_ok h

/-- Every constructor of assertions has decided its claim by the time it has made its program. -/
theorem Asserts.eq_assertThat {p : Program} (h : p.Asserts) :
    ∃ holds s c, p = assertThat holds s c := by
  cases h with
  | assertIf h => exact ⟨_, assertIf_ok h⟩
  | success h => exact ⟨_, assertIf_ok h⟩
  | failure h => exact ⟨_, assertIf_ok h⟩
  | isTrue h => exact ⟨_, assertStated_ok h⟩
  | isFalse h => exact ⟨_, assertStated_ok h⟩
  | equal h => exact ⟨_, assertStated_ok h⟩
  | notEqual h => exact ⟨_, assertStated_ok h⟩
  | isSubstring h
  | isNotSubstring h
  | isNamedSubstring h
  | isNotNamedSubstring h
  | matchesSchema h =>
    obtain ⟨_, _, h⟩ := Outcome.bind_eq_ok.mp h
    exact ⟨_, assertStated_ok h⟩

end Program

namespace Interpretation

variable {S E : Type}

/-- What has to hold of an interpretation. The programs of the runs put no other environment in
place. -/
structure Lawful (i : Interpretation S E) : Prop where
  ends {p : Program} {s t : S} {outcome : Outcome Value} {events : List E}
    (keeps : p.All Request.KeepsEnvironment) (h : i.Ends p s outcome events t) :
    i.context t = i.context s ∧ i.Balanced events
  balances {p : Program} {s t : S} {outcome : Outcome Value} {events : List E}
    (keeps : p.All Request.KeepsEnvironment) (h : i.Ends p s outcome events t) :
    i.assertions t = i.assertions s ++ i.records events
  enters {p : Program} {s t : S} {ticks : List E} (h : i.Enters p s ticks t) :
    i.context t = i.context s ∧ i.Balanced ticks
  resumes {s t : S} {ticks : List E} (h : i.Resumes s ticks t) :
    i.context t = i.context s ∧ i.Balanced ticks
  nested (name : Value) (s : S) : i.context (i.nested name s) = i.context s ++ [name]
  opened (names : List Value) (name : Value) : i.scope names (i.opened name) = names ++ [name]
  asserts {holds : Bool} {statement comment : Wording} {s t : S} {outcome : Outcome Value}
    {events : List E} (h : i.Ends (.assertThat holds statement comment) s outcome events t) :
    (∃ names : List Wording, i.context s = names.map .text ∧
        i.records events = [.ofBool holds statement (.intercalate "/" names) comment]) ∨
      (∃ error, outcome = .error error) ∧ i.records events = []
  first {p : Program} {next : Value → Program} {s : S} {events : List E}
    (h : i.Begins (.bind p next) s events) : i.Begins p s events
  next {p : Program} {next : Value → Program} {s u w : S} {v : Value}
    {done ticks events : List E} (ended : i.Ends p s (.ok v) done u)
    (entered : i.Enters (next v) u ticks w) (h : i.Begins (.bind p next) s events) :
    ∃ rest, events = done ++ ticks ++ rest ∧ i.Begins (next v) w rest
  mapped {p : Program} {change : Value → Outcome Value} {s : S} {events : List E}
    (h : i.Begins (.map p change) s events) : i.Begins p s events
  attempted {p : Program} {kind : FaultKind} {s : S} {events : List E}
    (h : i.Begins (.attempt p kind) s events) : i.Begins p s events
  under {p : Program} {name : Value} {s : S} {events : List E}
    (h : i.Begins (.nest name p) s events) :
    ∃ rest, events = i.opened name :: rest ∧ i.Begins p (i.nested name s) rest
  yielded {p : Program} {next : Value → Body} {s : S} {events : List E}
    (h : i.Begins (.body (.yield p next)) s events) : i.Begins p s events
  resumed {p : Program} {next : Value → Body} {s u w : S} {v : Value}
    {done ticks events : List E} (ended : i.Ends p s (.ok v) done u)
    (resumes : i.Resumes u ticks w) (h : i.Begins (.body (.yield p next)) s events) :
    ∃ rest, events = done ++ ticks ++ rest ∧ i.Begins (.body (next v)) w rest

/-- Contexts are scoped and assertions are exact in the run of a program from a state. -/
structure Scopes (i : Interpretation S E) (p : Program) (s : S) : Prop where
  /-- A sub-program is carried out in the start context with the names open at that moment. -/
  context {before : List E} {q : Program} {t : S} (comes : i.Comes p s before q t) :
    i.context t = i.context s ++ i.opens before
  /-- Once it has ended, the context and the open names are those from before it. -/
  restored {before inner : List E} {q : Program} {t u : S} {outcome : Outcome Value}
    (comes : i.Comes p s before q t) (ended : i.Ends q t outcome inner u) :
    i.context u = i.context t ∧ i.opens (before ++ inner) = i.opens before
  /-- What happens in a sub-program is one piece of what happens in the run. -/
  piece {before events : List E} {q : Program} {t w : S} {outcome : Outcome Value}
    (comes : i.Comes p s before q t) (ended : i.Ends p s outcome events w) :
    ∃ result inner u after, i.Ends q t result inner u ∧ events = before ++ (inner ++ after)
  /-- An assertion is recorded once, in the start context with the names open at that moment. -/
  asserted {before inner : List E} {q : Program} {t u : S} {outcome : Outcome Value}
    (comes : i.Comes p s before q t) (asserts : q.Asserts) (ended : i.Ends q t outcome inner u) :
    (∀ a ∈ i.records inner, ∃ names : List Wording,
        i.context s ++ i.opens before = names.map .text ∧ a.context = .intercalate "/" names) ∧
      ∀ v, outcome = .ok v → ∃ a, i.records inner = [a]
  /-- The run adds the assertions that it records, in the order in which it records them. -/
  exact {events : List E} {t : S} {outcome : Outcome Value}
    (ended : i.Ends p s outcome events t) :
    i.assertions t = i.assertions s ++ i.records events

namespace Balanced

variable {i : Interpretation S E} {first second : List E}

theorem nil : i.Balanced [] := fun _ => rfl

theorem append (hf : i.Balanced first) (hs : i.Balanced second) : i.Balanced (first ++ second) :=
  fun names => by rw [List.foldl_append, hf, hs]

end Balanced

section Laws

variable {i : Interpretation S E} {p q : Program} {s t : S} {before : List E}

theorem foldl_over {done ticks : List E} (hd : i.Balanced done) (ht : i.Balanced ticks)
    (names : List Value) :
    (done ++ ticks ++ before).foldl i.scope names = before.foldl i.scope names := by
  rw [List.foldl_append, hd.append ht]

/-- On the way to a sub-program the names around it are opened, on top of what is open. -/
theorem Comes.scoped (laws : i.Lawful) (h : i.Comes p s before q t)
    (keeps : p.All Request.KeepsEnvironment) :
    q.All Request.KeepsEnvironment ∧ i.context t = i.context s ++ i.opens before ∧
      ∀ names, before.foldl i.scope names = names ++ i.opens before := by
  induction h with
  | here p s => exact ⟨keeps, (List.append_nil _).symm, fun names => (List.append_nil _).symm⟩
  | first _ ih => exact ih keeps.1
  | @next p q next s u w t v done ticks before ended entered _ ih =>
    obtain ⟨hc, hd⟩ := laws.ends keeps.1 ended
    obtain ⟨he, ht⟩ := laws.enters entered
    obtain ⟨hq, context, opens⟩ := ih (keeps.2 v)
    simp only [Interpretation.opens, foldl_over hd ht]
    exact ⟨hq, by rw [context, he, hc, Interpretation.opens], opens⟩
  | mapped _ ih => exact ih keeps
  | attempted _ ih => exact ih keeps
  | @nested p q name s t before _ ih =>
    obtain ⟨hq, context, opens⟩ := ih keeps
    have top : i.opens (i.opened name :: before) = name :: i.opens before := by
      rw [Interpretation.opens, List.foldl_cons, laws.opened, opens]
      rfl
    refine ⟨hq, ?_, fun names => ?_⟩
    · rw [context, laws.nested, top, List.append_assoc, List.singleton_append]
    · rw [List.foldl_cons, laws.opened, opens, top, List.append_assoc, List.singleton_append]
  | yielded _ ih => exact ih keeps.1
  | @resumed p q next s u w t v done ticks before ended resumes _ ih =>
    obtain ⟨hc, hd⟩ := laws.ends keeps.1 ended
    obtain ⟨he, ht⟩ := laws.resumes resumes
    obtain ⟨hq, context, opens⟩ := ih (keeps.2 v)
    simp only [Interpretation.opens, foldl_over hd ht]
    exact ⟨hq, by rw [context, he, hc, Interpretation.opens], opens⟩

/-- Whatever the surroundings do later, a run goes through the whole of a sub-program that it
comes to. -/
theorem Comes.piece (laws : i.Lawful) (h : i.Comes p s before q t) {events : List E}
    (begins : i.Begins p s events) : ∃ rest, events = before ++ rest ∧ i.Begins q t rest := by
  induction h generalizing events with
  | here p s => exact ⟨events, rfl, begins⟩
  | first _ ih => exact ih (laws.first begins)
  | next ended entered _ ih =>
    obtain ⟨later, rfl, following⟩ := laws.next ended entered begins
    obtain ⟨rest, rfl, hq⟩ := ih following
    exact ⟨rest, (List.append_assoc ..).symm, hq⟩
  | mapped _ ih => exact ih (laws.mapped begins)
  | attempted _ ih => exact ih (laws.attempted begins)
  | nested _ ih =>
    obtain ⟨inner, rfl, under⟩ := laws.under begins
    obtain ⟨rest, rfl, hq⟩ := ih under
    exact ⟨rest, rfl, hq⟩
  | yielded _ ih => exact ih (laws.yielded begins)
  | resumed ended resumes _ ih =>
    obtain ⟨later, rfl, following⟩ := laws.resumed ended resumes begins
    obtain ⟨rest, rfl, hq⟩ := ih following
    exact ⟨rest, (List.append_assoc ..).symm, hq⟩

theorem Lawful.scopes (laws : i.Lawful) (keeps : p.All Request.KeepsEnvironment) (s : S) :
    i.Scopes p s where
  context comes := (comes.scoped laws keeps).2.1
  restored comes ended := by
    obtain ⟨hq, _, _⟩ := comes.scoped laws keeps
    obtain ⟨context, balanced⟩ := laws.ends hq ended
    exact ⟨context, by rw [opens, List.foldl_append, balanced, opens]⟩
  piece comes ended := by
    obtain ⟨_, rfl, result, inner, u, after, hq, rfl⟩ :=
      comes.piece laws ⟨_, _, _, [], ended, (List.append_nil _).symm⟩
    exact ⟨result, inner, u, after, hq, rfl⟩
  asserted comes asserts ended := by
    obtain ⟨holds, statement, comment, rfl⟩ := asserts.eq_assertThat
    rw [← (comes.scoped laws keeps).2.1]
    obtain ⟨names, context, recorded⟩ | ⟨⟨error, rfl⟩, recorded⟩ := laws.asserts ended
    · rw [recorded]
      refine ⟨fun a ha => ⟨names, context, ?_⟩, fun _ _ => ⟨_, rfl⟩⟩
      rw [List.mem_singleton.mp ha, Assertion.ofBool]
    · rw [recorded]
      exact ⟨fun _ ha => (List.not_mem_nil ha).elim, nofun⟩
  exact ended := laws.balances keeps ended

end Laws

end Interpretation

end Rehearsal
