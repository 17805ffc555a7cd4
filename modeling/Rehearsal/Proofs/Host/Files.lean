import Rehearsal.Proofs.Run.Scope

/-!
# Host errors in attempts at files

An attempt at a read or a write ends with a result whatever the host reports: its errors become
faults of the path, of a kind that their numbers decide. The question whether a file exists hands
an error on as it is, unless the error says that the path leads nowhere.
-/

namespace Rehearsal

namespace OsError

/-- The kind of fault that a read makes of an error. -/
def readKind (e : OsError) : FaultKind := if e.code = 2 then .notFound else .io

/-- The kind of fault that a write makes of an error. -/
def writeKind (e : OsError) : FaultKind :=
  if e.code = 28 ∨ e.code = 122 then .storageFull else if e.code = 2 then .notFound else .io

/-- The errors that say that a path leads nowhere: no entry, a bad descriptor, no directory, and too
many links. -/
theorem isAbsent_iff (e : OsError) : e.isAbsent = true ↔ e.code ∈ [2, 9, 20, 40] := by
  simp [isAbsent]
  omega

end OsError

theorem Fault.make_text (kind : FaultKind) (message path : Wording) :
    Fault.make kind (.text message) (.text path) = .ok ⟨kind, .text message, .text path⟩ := rfl

namespace Host

variable {σ : Type}

theorem readFault_text (w : Wording) (e : OsError) :
    ∃ f, readFault (.text w) e = .ok f ∧ f.kind = e.readKind ∧ f.path = .text w := by
  unfold readFault OsError.readKind OsError.isMissing
  by_cases missing : e.code = 2
  · simp only [missing, beq_self_eq_true, ↓reduceIte]
    exact ⟨_, Fault.make_text .notFound _ w, rfl, rfl⟩
  · simp only [beq_eq_false_iff_ne.mpr missing, Bool.false_eq_true, missing, ↓reduceIte]
    exact ⟨_, Fault.make_text .io _ w, rfl, rfl⟩

theorem writeFault_text (w : Wording) (e : OsError) :
    ∃ f, writeFault (.text w) e = .ok f ∧ f.kind = e.writeKind ∧ f.path = .text w := by
  unfold writeFault OsError.writeKind OsError.isFull OsError.isMissing
  by_cases full : e.code = 28 ∨ e.code = 122
  · have hf : (e.code == 28 || e.code == 122) = true := by simpa using full
    simp only [hf, full, ↓reduceIte]
    exact ⟨_, Fault.make_text .storageFull _ w, rfl, rfl⟩
  · have hf : (e.code == 28 || e.code == 122) = false := by simpa using full
    by_cases missing : e.code = 2
    · simp only [missing, beq_self_eq_true, ↓reduceIte]
      exact ⟨_, Fault.make_text .notFound _ w, rfl, rfl⟩
    · simp only [hf, full, Bool.false_eq_true, beq_eq_false_iff_ne.mpr missing, missing,
        ↓reduceIte]
      exact ⟨_, Fault.make_text .io _ w, rfl, rfl⟩

/-- What an attempt at anything makes of one request. -/
def attemptAt (m : Machine σ) (r : Request) (context : List Value) (h : Host σ) :
    Outcome Value × Host σ :=
  (Program.attempt (.ask r) .general).perform m context h

/-- The result of an attempt: what the host gave, or a fault of the path in place of its error. -/
def Contained {α : Type} (give : α → Value) (kind : OsError → FaultKind) (path : Value)
    (met : Except OsError α) (outcome : Outcome Value) : Prop :=
  match met with
  | .ok a => outcome = .ok (.success (give a))
  | .error e => ∃ f, outcome = .ok (.failure (.fault f)) ∧ f.kind = kind e ∧ f.path = path

/-- What is contained is no error. -/
theorem Contained.ne_error {α : Type} {give : α → Value} {kind : OsError → FaultKind}
    {path : Value} {met : Except OsError α} {outcome : Outcome Value}
    (h : Contained give kind path met outcome) {e : Error} : outcome ≠ .error e := by
  intro he
  cases met with
  | ok a =>
    rw [Contained, he] at h
    cases h
  | error met =>
    obtain ⟨f, hf, _⟩ := h
    rw [he] at hf
    cases hf

section Attempts

variable (m : Machine σ) {w : Wording} {p : Path} (context : List Value) (h : Host σ)

theorem attemptAt_loadFile (place : pathOf w.display = .ok p) :
    Contained .bytes OsError.readKind (.text w) (m.loadFile p h.world).1
        (attemptAt m (.loadFile (.text w)) context h).1 ∧
      (attemptAt m (.loadFile (.text w)) context h).2 =
        { h with world := (m.loadFile p h.world).2 } := by
  have performed : attemptAt m (.loadFile (.text w)) context h =
      attempted .general (h.loadFile m (.text w)) := rfl
  have prepared : (pathWording (.text w) >>= pathOf) = .ok p := place
  rw [performed, loadFile, prepared]
  simp only [still, andThen]
  cases (m.loadFile p h.world).1 with
  | ok contents => exact ⟨rfl, rfl⟩
  | error e =>
    obtain ⟨f, hf, kind, path⟩ := readFault_text w e
    simp only [hf]
    exact ⟨⟨f, rfl, kind, path⟩, rfl⟩

theorem attemptAt_saveFile (contents : Text.Bytes) (place : pathOf w.display = .ok p) :
    Contained (fun _ => .none) OsError.writeKind (.text w) (m.saveFile p contents h.world).1
        (attemptAt m (.saveFile (.text w) (.bytes contents)) context h).1 ∧
      (attemptAt m (.saveFile (.text w) (.bytes contents)) context h).2 =
        { h with world := (m.saveFile p contents h.world).2 } := by
  have performed : attemptAt m (.saveFile (.text w) (.bytes contents)) context h =
      attempted .general (h.saveFile m (.text w) (.bytes contents)) := rfl
  rw [performed, saveFile]
  simp only [pathWording, Value.toBytes, place, bind, Except.bind, pure, Except.pure, still,
    andThen]
  cases (m.saveFile p contents h.world).1 with
  | ok => exact ⟨rfl, rfl⟩
  | error e =>
    obtain ⟨f, hf, kind, path⟩ := writeFault_text w e
    simp only [hf]
    exact ⟨⟨f, rfl, kind, path⟩, rfl⟩

theorem attemptAt_fileExists (place : pathOf w.display = .ok p) :
    attemptAt m (.fileExists (.text w)) context h =
      match m.obstacle? p h.world with
      | none => (.ok (.success (.bool true)), h)
      | some e =>
        if e.isAbsent then (.ok (.success (.bool false)), h) else (.error (.os e p.text), h) := by
  have performed : attemptAt m (.fileExists (.text w)) context h =
      attempted .general (h.still (h.fileExists m (.text w))) := rfl
  rw [performed, fileExists, pathWording]
  simp only [place, bind, Except.bind]
  cases m.obstacle? p h.world with
  | none => rfl
  | some e => cases ha : e.isAbsent <;> simp only [ha] <;> rfl

/-- A path that the host cannot be asked about is refused, but not with an error of the host. -/
theorem pathOf_error {e : Error} (refused : pathOf w.display = .error e) :
    (∃ f, e = .unencodable f) ∨ e = .rejected .nullByte := by
  unfold pathOf at refused
  cases encoded : w.display.encode with
  | error f =>
    rw [encoded] at refused
    cases refused
    exact Or.inl ⟨f, rfl⟩
  | ok bytes =>
    rw [encoded] at refused
    change (if _ then _ else _) = _ at refused
    split at refused
    · cases refused
      exact Or.inr rfl
    · cases refused

theorem attemptAt_refused (contents : Text.Bytes) {e : Error}
    (refused : pathOf w.display = .error e) :
    attemptAt m (.loadFile (.text w)) context h = (.error e, h) ∧
      attemptAt m (.saveFile (.text w) (.bytes contents)) context h = (.error e, h) ∧
      attemptAt m (.fileExists (.text w)) context h = (.ok (.success (.bool false)), h) := by
  have loaded : attemptAt m (.loadFile (.text w)) context h =
      attempted .general (h.loadFile m (.text w)) := rfl
  have saved : attemptAt m (.saveFile (.text w) (.bytes contents)) context h =
      attempted .general (h.saveFile m (.text w) (.bytes contents)) := rfl
  have asked : attemptAt m (.fileExists (.text w)) context h =
      attempted .general (h.still (h.fileExists m (.text w))) := rfl
  have prepared : (pathWording (.text w) >>= pathOf) = .error e := refused
  rw [loaded, saved, asked, loadFile, prepared, saveFile, fileExists]
  simp only [pathWording, Value.toBytes, refused, bind, Except.bind, pure, Except.pure, still,
    andThen]
  obtain ⟨f, rfl⟩ | rfl := pathOf_error refused <;> exact ⟨rfl, rfl, rfl⟩

end Attempts

/-- Wherever a program comes to an attempt at a read or a write, it ends with a result, and an
error of the host with a fault of the path, of the kind for its number. An attempt at the question
whether a file exists ends with an answer unless the host reports an error that does not say that
the path leads nowhere; that one gets out. -/
theorem file_errors_contained (m : Machine σ) (w : Wording) (contents : Text.Bytes)
    (context : List Value) (h : Host σ) :
    (∀ p, pathOf w.display = .ok p →
      Contained .bytes OsError.readKind (.text w) (m.loadFile p h.world).1
          (attemptAt m (.loadFile (.text w)) context h).1 ∧
        Contained (fun _ => .none) OsError.writeKind (.text w) (m.saveFile p contents h.world).1
          (attemptAt m (.saveFile (.text w) (.bytes contents)) context h).1 ∧
        (m.obstacle? p h.world = none →
          attemptAt m (.fileExists (.text w)) context h = (.ok (.success (.bool true)), h)) ∧
        ∀ e, m.obstacle? p h.world = some e →
          (e.code ∈ [2, 9, 20, 40] →
            attemptAt m (.fileExists (.text w)) context h = (.ok (.success (.bool false)), h)) ∧
          (e.code ∉ [2, 9, 20, 40] →
            attemptAt m (.fileExists (.text w)) context h = (.error (.os e p.text), h))) ∧
    ∀ e place, (attemptAt m (.loadFile (.text w)) context h).1 ≠ .error (.os e place) ∧
      (attemptAt m (.saveFile (.text w) (.bytes contents)) context h).1 ≠
        .error (.os e place) := by
  constructor
  · intro p place
    have asked := attemptAt_fileExists m context h place
    refine ⟨(attemptAt_loadFile m context h place).1,
      (attemptAt_saveFile m context h contents place).1, ?_, ?_⟩
    · intro clear
      rw [asked, clear]
    · intro e met
      rw [asked, met, ← e.isAbsent_iff]
      exact ⟨fun absent => if_pos absent, fun present => if_neg present⟩
  · intro e place
    cases hp : pathOf w.display with
    | error refusal =>
      obtain ⟨loaded, saved, _⟩ := attemptAt_refused m context h contents hp
      rw [loaded, saved]
      obtain ⟨f, rfl⟩ | rfl := pathOf_error hp <;> exact ⟨nofun, nofun⟩
    | ok p =>
      obtain ⟨loaded, _⟩ := attemptAt_loadFile m context h hp
      obtain ⟨saved, _⟩ := attemptAt_saveFile m context h contents hp
      exact ⟨loaded.ne_error, saved.ne_error⟩

/-- A world that no one may look into: the host reports the same error at every path. -/
def guarded : Machine Unit :=
  { Machine.bare with
    obstacle? := fun _ _ => some ⟨13, some "Permission denied"⟩
    loadFile := fun _ w => (.error ⟨13, some "Permission denied"⟩, w)
    saveFile := fun _ _ w => (.error ⟨13, some "Permission denied"⟩, w) }

theorem guarded_errors_contained :
    ∃ p, pathOf (.plain "vault") = .ok p ∧
      (∃ f, (attemptAt guarded (.loadFile (.text "vault")) [] { world := () }).1 =
        .ok (.failure (.fault f)) ∧ f.kind = .io ∧ f.path = .text "vault") ∧
      (∃ f, (attemptAt guarded (.saveFile (.text "vault") (.bytes [104])) [] { world := () }).1 =
        .ok (.failure (.fault f)) ∧ f.kind = .io ∧ f.path = .text "vault") ∧
      ∀ e place, (attemptAt guarded (.loadFile (.text "vault")) [] { world := () }).1 ≠
        .error (.os e place) := by
  obtain ⟨met, kept⟩ := file_errors_contained guarded "vault" [104] [] { world := () }
  have place : pathOf (.plain "vault") = .ok (.ofText "vault") := rfl
  obtain ⟨loaded, saved, _⟩ := met _ place
  exact ⟨_, place, loaded, saved, fun e at_ => (kept e at_).1⟩

/-- An error that does not say that the path leads nowhere gets out of an attempt at the question
whether a file exists. -/
theorem guarded_error_escapes :
    ∃ p, pathOf (.plain "vault") = .ok p ∧
      (attemptAt guarded (.fileExists (.text "vault")) [] { world := () }).1 =
        .error (.os ⟨13, some "Permission denied"⟩ p.text) := by
  have place : pathOf (.plain "vault") = .ok (.ofText "vault") := rfl
  refine ⟨_, place, ?_⟩
  rw [attemptAt_fileExists (w := .plain "vault") guarded [] { world := () } place]
  rfl

end Host

end Rehearsal
