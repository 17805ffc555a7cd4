import Rehearsal.Proofs.Run.Scope
import Rehearsal.Proofs.Value.Contained

/-!
# Opposite assertions

An assertion and its opposite decide the same claim when they are built. Whichever interpreter runs
them, each records one assertion in the context in force, and of the two verdicts one is a success
and the other a failure.
-/

namespace Rehearsal

namespace Program

/-- A program records one assertion in the context in force and does nothing else. A simulated run
takes a tick for its second step. -/
structure Records (p : Program) (holds : Bool) (statement comment : Wording) : Prop where
  simulated : ∀ (server : Responder) (e : Environment) (names : List Wording),
    e.context = names.map .text → p.simulate server e = e.advance.map fun t =>
      (.none, .environment { t with
        assertions := t.assertions ++
          [⟨statement, comment, .intercalate "/" names, .ofBool holds⟩] })
  performed : ∀ {σ : Type} (m : Machine σ) (names : List Wording) (h : Host σ),
    p.perform m (names.map .text) h = (.ok .none, { h with
      assertions := h.assertions ++
        [⟨statement, comment, .intercalate "/" names, .ofBool holds⟩] })

theorem assertThat_records (holds : Bool) (statement comment : Wording) :
    (assertThat holds statement comment).Records holds statement comment where
  simulated server e names inside := by
    have rendered : Value.renderContext e.context = .ok (.intercalate "/" names) := by
      rw [inside]
      exact Value.joined_texts "/" names
    have context : (Request.context).simulate server e =
        .ok (.text (.intercalate "/" names), .environment e) := by
      rw [Request.simulate, rendered]
      rfl
    have entered (a : Assertion) : (ask (.record a)).enter (.environment e) = e.advance := rfl
    rw [assertThat, simulate, simulate, context]
    change ((ask _).enter (.environment e) >>= fun t => (ask (.record _)).simulate server t) = _
    rw [entered]
    cases e.advance with
    | error _ => rfl
    | ok t => rfl
  performed m names h := by
    have rendered : Value.renderContext (names.map .text) = .ok (.intercalate "/" names) :=
      Value.joined_texts "/" names
    rw [assertThat, perform, perform, Request.perform, rendered]
    rfl

/-- What is decided, by which assertion, and by which opposite one. -/
inductive Opposites : Outcome Bool → (Value → Outcome Program) → (Value → Outcome Program) → Prop
  | truth (v : Value) : Opposites (.ok v.truth) (assertTrue v) (assertFalse v)
  | equality (x y : Value) : Opposites (.ok (x.same y)) (assertEqual x y) (assertNotEqual x y)
  | containment (x y : Value) :
    Opposites (x.occursIn y) (assertIsSubstring x y) (assertIsNotSubstring x y)
  | namedContainment (x y name : Value) :
    Opposites (x.occursIn y) (assertIsNamedSubstring x y name) (assertIsNotNamedSubstring x y name)

/-- Both statements can be written, or neither can for one reason. -/
def WrittenAlike (s t : Outcome Wording) : Prop :=
  (∃ e, s = .error e ∧ t = .error e) ∨ ∃ v w, s = .ok v ∧ t = .ok w

theorem about_alike (v : Value) (words others : String) :
    WrittenAlike (about v words) (about v others) := by
  unfold about
  cases v.shown with
  | error e => exact .inl ⟨e, rfl, rfl⟩
  | ok _ => exact .inr ⟨_, _, rfl, rfl⟩

theorem between_alike (x y : Value) (words others : String) :
    WrittenAlike (between x words y) (between x others y) := by
  unfold between
  cases x.shown with
  | error e => exact .inl ⟨e, rfl, rfl⟩
  | ok _ =>
    cases y.shown with
    | error e => exact .inl ⟨e, rfl, rfl⟩
    | ok _ => exact .inr ⟨_, _, rfl, rfl⟩

theorem named_alike (x name : Value) (words others : String) :
    WrittenAlike (named x words name) (named x others name) := by
  unfold named
  cases x.shown with
  | error e => exact .inl ⟨e, rfl, rfl⟩
  | ok _ =>
    cases name.displayed with
    | error e => exact .inl ⟨e, rfl, rfl⟩
    | ok _ => exact .inr ⟨_, _, rfl, rfl⟩

/-- Opposite assertions differ in their words, and in that one of them denies what is decided. -/
theorem Opposites.stated {decided : Outcome Bool} {asserts denies : Value → Outcome Program}
    (opposites : Opposites decided asserts denies) :
    ∃ s t, WrittenAlike s t ∧ ∀ comment,
      asserts comment = (do assertStated (← decided) s comment) ∧
        denies comment = (do assertStated (!(← decided)) t comment) := by
  cases opposites with
  | truth v => exact ⟨_, _, about_alike v _ _, fun _ => ⟨rfl, rfl⟩⟩
  | equality x y => exact ⟨_, _, between_alike x y _ _, fun _ => ⟨rfl, rfl⟩⟩
  | containment x y => exact ⟨_, _, between_alike x y _ _, fun _ => ⟨rfl, rfl⟩⟩
  | namedContainment x y name => exact ⟨_, _, named_alike x name _ _, fun _ => ⟨rfl, rfl⟩⟩

theorem assertIf_text (holds : Bool) (statement : Wording) (comment : Value) :
    assertIf holds (.text statement) comment =
      match comment.wording? with
      | some c => .ok (assertThat holds statement c)
      | none => .error (.mismatch .statement) := by
  cases comment with
  | text c => rfl
  | _ => rfl

/-- With one comment, opposite assertions are both built, with opposite verdicts on what is decided,
or neither is. -/
theorem Opposites.built {decided : Outcome Bool} {asserts denies : Value → Outcome Program}
    (opposites : Opposites decided asserts denies) (comment : Value) :
    (∃ e, asserts comment = .error e ∧ denies comment = .error e) ∨
      ∃ holds s t c, decided = .ok holds ∧ comment.wording? = some c ∧
        asserts comment = .ok (assertThat holds s c) ∧
        denies comment = .ok (assertThat (!holds) t c) := by
  obtain ⟨s, t, alike, stated⟩ := opposites.stated
  obtain ⟨asserted, denied⟩ := stated comment
  cases decided with
  | error e => exact .inl ⟨e, asserted, denied⟩
  | ok holds =>
    obtain ⟨e, rfl, rfl⟩ | ⟨v, w, rfl, rfl⟩ := alike
    · exact .inl ⟨e, asserted, denied⟩
    · have asserted : asserts comment = _ := asserted.trans (assertIf_text holds v comment)
      have denied : denies comment = _ := denied.trans (assertIf_text (!holds) w comment)
      cases text : comment.wording? with
      | none =>
        rw [text] at asserted denied
        exact .inl ⟨_, asserted, denied⟩
      | some c =>
        rw [text] at asserted denied
        exact .inr ⟨holds, v, w, c, rfl, rfl, asserted, denied⟩

end Program

/-- Containment of sequences is decided as it is for the lists of their elements. Of two opposite
assertions, each records one assertion in the context in force, with a verdict opposite to that of
the other. -/
theorem assertions_decide :
    (∀ x y : Value, x.IsSequence → y.IsSequence → ∃ xs ys occurs, x.Decides y xs ys occurs) ∧
      ∀ decided asserts denies, Program.Opposites decided asserts denies → ∀ comment : Value,
        (∃ e, asserts comment = .error e ∧ denies comment = .error e) ∨
          ∃ holds s t c p q, decided = .ok holds ∧ comment.wording? = some c ∧
            asserts comment = .ok p ∧ denies comment = .ok q ∧
            p.Records holds s c ∧ q.Records (!holds) t c := by
  refine ⟨fun x y hx hy => Value.occursIn_decides hx hy, fun decided _ _ opposites comment => ?_⟩
  obtain neither | ⟨holds, s, t, c, claim, text, asserted, denied⟩ := opposites.built comment
  · exact .inl neither
  · exact .inr ⟨holds, s, t, c, _, _, claim, text, asserted, denied,
      Program.assertThat_records holds s c, Program.assertThat_records (!holds) t c⟩

/-- A letter occurs in a word, and two bytes do not occur in a single number. -/
theorem letter_assertions_decide :
    (∃ xs ys, Value.Decides "b" "abc" xs ys true) ∧
      (∃ xs ys, Value.Decides (.bytes [1, 2]) (.tuple [.int 2]) xs ys false) ∧
      ∃ s t p q, Program.assertIsSubstring "b" "abc" "why" = .ok p ∧
        Program.assertIsNotSubstring "b" "abc" "why" = .ok q ∧
        p.Records true s "why" ∧ q.Records false t "why" := by
  obtain ⟨decides, opposed⟩ := assertions_decide
  have occurs : Value.occursIn "b" "abc" = .ok true := rfl
  refine ⟨?_, ?_, ?_⟩
  · obtain ⟨xs, ys, found, word⟩ := decides "b" "abc" trivial trivial
    cases occurs.symm.trans word.found
    exact ⟨xs, ys, word⟩
  · obtain ⟨xs, ys, found, bytes⟩ := decides (.bytes [1, 2]) (.tuple [.int 2]) trivial trivial
    cases bytes.needle
    cases bytes.haystack
    cases bytes.scanned
    exact ⟨_, _, bytes⟩
  · obtain ⟨e, refused, -⟩ | ⟨holds, s, t, c, p, q, decided, text, built⟩ :=
      opposed _ _ _ (.containment "b" "abc") "why"
    · cases refused
    · cases occurs.symm.trans decided
      cases text
      exact ⟨s, t, p, q, built⟩

end Rehearsal
