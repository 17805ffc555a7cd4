import Mathlib.Data.List.Nodup
import Rehearsal.Proofs.Json.CanonicalBytes
import Rehearsal.Proofs.Time.Written

/-!
# Snapshots determine environments

The canonical bytes of a snapshot determine what an environment shows. An object with distinct names
is known field by field, so each part of the environment can be read back from its plain form: texts
from what they read as, bytes from their digits, the clock from its text and a fault from its code.
-/

namespace Rehearsal

/-- Related lists of images are lists of related items. -/
theorem forall₂_of_map {α β γ δ : Type} {R : γ → δ → Prop} {S : α → β → Prop} {f : α → γ}
    {g : β → δ} : ∀ {as : List α} {bs : List β},
      (∀ a ∈ as, ∀ b ∈ bs, R (f a) (g b) → S a b) →
        List.Forall₂ R (as.map f) (bs.map g) → List.Forall₂ S as bs
  | [], [], _, _ => .nil
  | a :: as, b :: bs, each, .cons first rest =>
    .cons (each a (List.mem_cons_self ..) b (List.mem_cons_self ..) first)
      (forall₂_of_map (fun c hc d hd => each c (List.mem_cons_of_mem a hc) d
        (List.mem_cons_of_mem b hd)) rest)

theorem exists_of_forall₂ {α β : Type} {R : α → β → Prop} {as : List α} {bs : List β}
    (h : List.Forall₂ R as bs) {a : α} (ha : a ∈ as) : ∃ b ∈ bs, R a b := by
  induction h with
  | nil => cases ha
  | cons first _ ih =>
    rcases List.mem_cons.mp ha with rfl | ha
    · exact ⟨_, List.mem_cons_self .., first⟩
    · obtain ⟨b, hb, related⟩ := ih ha
      exact ⟨b, List.mem_cons_of_mem _ hb, related⟩

namespace Json

theorem Alike.items {xs ys : List Json} (h : Alike (.array xs) (.array ys)) :
    List.Forall₂ Alike xs ys := by
  cases h with
  | array h => exact h

theorem Alike.points {v w : Wording} (h : Alike (.text v) (.text w)) : v.points = w.points := by
  cases h with
  | text h => exact h

theorem Alike.plain {a b : String} (h : Alike (.text (.plain a)) (.text (.plain b))) : a = b :=
  String.toList_injective (List.map_injective_iff.mpr (fun _ _ => Text.CodePoint.char.inj) h.points)

/-- Objects with the same texts as names are alike name by name. -/
theorem Alike.field {fields others : List (String × Json)}
    (h : Alike (ofFields fields) (ofFields others)) (distinct : (others.map Prod.fst).Nodup)
    {name : String} {v w : Json} (hv : (name, v) ∈ fields) (hw : (name, w) ∈ others) :
    Alike v w := by
  cases h with
  | object he hf h =>
    -- The entry of that name has a partner, which has the name as well and so is the other entry.
    obtain ⟨f, hf', related⟩ := exists_of_forall₂ h (he.mem_iff.mp (List.mem_map_of_mem hv))
    obtain ⟨⟨n, u⟩, hu, rfl⟩ := List.mem_map.mp (hf.mem_iff.mpr hf')
    cases related with
    | entry same value =>
      have names : name = n := (Alike.text same).plain
      have entry := List.inj_on_of_nodup_map distinct hw hu names
      rw [(Prod.mk.inj entry).2]
      exact value

end Json

/-! ## Dicts with texts as keys -/

namespace Value

theorem put_fresh {key : Wording} {value : Json} {done : List (Wording × Json)}
    (h : ∀ e ∈ done, e.1.same key = false) : Json.put key value done = done ++ [(key, value)] := by
  induction done with
  | nil => rfl
  | cons e rest ih =>
    obtain ⟨k, v⟩ := e
    have other : k.same key = false := h _ (List.mem_cons_self ..)
    rw [Json.put, other, ih fun f hf => h f (List.mem_cons_of_mem _ hf)]
    rfl

/-- No two entries share a key. -/
def KeysApart (entries : List (Value × Value)) : Prop :=
  entries.Pairwise fun e f => e.1.keyOf.same f.1.keyOf = false

theorem keysApart_of_nodup {entries : List (Value × Value)}
    (distinct : (entries.map (·.1.keyOf.points)).Nodup) : KeysApart entries := by
  have apart : entries.Pairwise fun e f => e.1.keyOf.points ≠ f.1.keyOf.points :=
    List.pairwise_map.mp distinct
  refine apart.imp fun {e f} other => ?_
  rw [Wording.same, decide_eq_false_iff_not]
  intro same
  apply other
  rw [← Wording.points_reading, same, Wording.points_reading]

/-- What the entries that are not dropped become. -/
def keptEntries (drop : List Wording) (entries : List (Value × Value)) : List (Wording × Json) :=
  (entries.filter fun e => !Json.isDropped drop e.1.keyOf).map fun e => (e.1.keyOf, e.2.plain drop)

/-- Entries that share no key are reduced one by one. -/
theorem plainEntries_apart (drop : List Wording) {entries : List (Value × Value)}
    {done : List (Wording × Json)} (apart : KeysApart entries)
    (fresh : ∀ e ∈ done, ∀ entry ∈ entries, e.1.same entry.1.keyOf = false) :
    Value.plainEntries drop done entries = done ++ keptEntries drop entries := by
  induction entries generalizing done with
  | nil => exact (List.append_nil done).symm
  | cons entry rest ih =>
    obtain ⟨k, v⟩ := entry
    obtain ⟨first, others⟩ := List.pairwise_cons.mp apart
    have before : ∀ e ∈ done, ∀ other ∈ rest, e.1.same other.1.keyOf = false :=
      fun e he other ho => fresh e he other (List.mem_cons_of_mem _ ho)
    rw [Value.plainEntries, keptEntries, List.filter_cons]
    cases Json.isDropped drop k.keyOf with
    | true => exact ih others before
    | false =>
      have put : Json.put k.keyOf (v.plain drop) done = done ++ [(k.keyOf, v.plain drop)] :=
        put_fresh fun e he => fresh e he _ (List.mem_cons_self ..)
      have later : ∀ e ∈ done ++ [(k.keyOf, v.plain drop)], ∀ other ∈ rest,
          e.1.same other.1.keyOf = false := by
        intro e he other ho
        rcases List.mem_append.mp he with he | he
        · exact before e he other ho
        · rw [List.mem_singleton.mp he]
          exact first other ho
      rw [if_neg Bool.false_ne_true, put, ih others later, List.append_assoc]
      rfl

theorem plain_dict_apart (drop : List Wording) {entries : List (Value × Value)}
    (apart : KeysApart entries) :
    (Value.dict entries).plain drop = .object (keptEntries drop entries) := by
  rw [Value.plain, plainEntries_apart drop apart (fun _ he => by cases he), List.nil_append]

theorem plain_dict {entries : List (Value × Value)}
    (distinct : (entries.map (·.1.keyOf.points)).Nodup) :
    (Value.dict entries).plain [] = .object (entries.map fun (k, v) => (k.keyOf, v.plain [])) := by
  rw [plain_dict_apart [] (keysApart_of_nodup distinct), keptEntries]
  simp only [Json.isDropped_nil, Bool.not_false, List.filter_true]

/-- A text as a key is no obstacle. -/
theorem entryObstacle?_text (drop : List Wording) (w : Wording) (v : Value)
    (rest : List (Value × Value)) :
    entryObstacle? drop ((.text w, v) :: rest) =
      (if Json.isDropped drop w then Option.none else v.obstacle? drop).or
        (entryObstacle? drop rest) := by
  rw [entryObstacle?, keyObstacle?, Option.none_or]
  show (if Json.isDropped drop w then _ else _) = _
  split <;> rfl

/-- What keeps a dict from having a plain form are its keys and its values. -/
theorem entryObstacle?_eq_none {entries : List (Value × Value)} :
    entryObstacle? [] entries = Option.none ↔
      (∀ e ∈ entries, e.1.keyObstacle? = Option.none) ∧
        ∀ e ∈ entries, e.2.obstacle? [] = Option.none := by
  induction entries with
  | nil => exact iff_of_true rfl ⟨List.forall_mem_nil _, List.forall_mem_nil _⟩
  | cons e rest ih =>
    obtain ⟨k, v⟩ := e
    rw [entryObstacle?, Json.isDropped_nil, if_neg Bool.false_ne_true, Option.or_eq_none_iff,
      Option.or_eq_none_iff, ih, List.forall_mem_cons, List.forall_mem_cons]
    constructor
    · rintro ⟨key, value, keys, values⟩
      exact ⟨⟨key, keys⟩, value, values⟩
    · rintro ⟨⟨key, keys⟩, value, values⟩
      exact ⟨key, value, keys, values⟩

/-- A dict with texts as keys. -/
def ofFields (fields : List (String × Value)) : Value :=
  .dict (fields.map fun (name, v) => (.ofString name, v))

theorem keysApart_ofFields {fields : List (String × Value)}
    (distinct : (fields.map Prod.fst).Nodup) :
    KeysApart (fields.map fun (name, v) => (.ofString name, v)) := by
  refine List.pairwise_map.mpr ((List.pairwise_map.mp distinct).imp fun {f g} other => ?_)
  show decide (Wording.plain f.1 = .plain g.1) = false
  rw [decide_eq_false_iff_not]
  intro same
  exact other (Wording.plain.inj same)

/-- Each entry that is not dropped is reduced by itself if the keys are distinct. -/
theorem plain_fields (drop : List Wording) {fields : List (String × Value)}
    (distinct : (fields.map Prod.fst).Nodup) :
    (ofFields fields).plain drop =
      Json.record drop (fields.map fun (name, v) => (name, v.plain drop)) := by
  rw [ofFields, plain_dict_apart drop (keysApart_ofFields distinct), keptEntries, Json.record,
    Json.ofFields, List.filter_map, List.filter_map, List.map_map, List.map_map]
  rfl

theorem plain_ofFields {fields : List (String × Value)} (distinct : (fields.map Prod.fst).Nodup) :
    (ofFields fields).plain [] =
      Json.ofFields (fields.map fun (name, v) => (name, v.plain [])) := by
  rw [plain_fields [] distinct, Json.record]
  simp only [Json.isDropped_nil, Bool.not_false, List.filter_true]

/-- Dicts with the same distinct texts as keys are alike key by key. -/
theorem alike_field {fields others : List (String × Value)}
    (h : Json.Alike ((ofFields fields).plain []) ((ofFields others).plain []))
    (names : fields.map Prod.fst = others.map Prod.fst) (distinct : (fields.map Prod.fst).Nodup)
    {name : String} {v w : Value} (hv : (name, v) ∈ fields) (hw : (name, w) ∈ others) :
    Json.Alike (v.plain []) (w.plain []) := by
  rw [plain_ofFields distinct, plain_ofFields (names ▸ distinct)] at h
  refine h.field ?_ (List.mem_map_of_mem hv) (List.mem_map_of_mem hw)
  rw [List.map_map]
  exact names ▸ distinct

theorem plainAll_eq (drop : List Wording) (items : List Value) :
    Value.plainAll drop items = items.map (Value.plain drop) := by
  induction items with
  | nil => rfl
  | cons item rest ih => rw [Value.plainAll, ih, List.map_cons]

/-- What the items of two lists have in common where their plain forms are alike. -/
theorem alike_images {α : Type} {f : α → Value} {as bs : List α} {S : α → α → Prop}
    (h : Json.Alike ((Value.list (as.map f)).plain []) ((Value.list (bs.map f)).plain []))
    (each : ∀ a ∈ as, ∀ b ∈ bs, Json.Alike ((f a).plain []) ((f b).plain []) → S a b) :
    List.Forall₂ S as bs := by
  rw [Value.plain, Value.plain, plainAll_eq, plainAll_eq, List.map_map, List.map_map] at h
  exact forall₂_of_map each h.items

theorem alike_items {xs ys : List Value} {S : Value → Value → Prop}
    (h : Json.Alike ((Value.list xs).plain []) ((Value.list ys).plain []))
    (each : ∀ x ∈ xs, ∀ y ∈ ys, Json.Alike (x.plain []) (y.plain []) → S x y) :
    List.Forall₂ S xs ys := by
  rw [← List.map_id xs, ← List.map_id ys] at h
  exact alike_images h each

/-! ## Texts and bytes -/

def IsText (v : Value) : Prop := ∃ w, v = .text w

/-- Two texts with the same code points. -/
def ReadsLike (v w : Value) : Prop :=
  ∃ a b : Wording, v = .text a ∧ w = .text b ∧ a.points = b.points

theorem readsLike_of_alike {v w : Value} (hv : v.IsText) (hw : w.IsText)
    (h : Json.Alike (v.plain []) (w.plain [])) : v.ReadsLike w := by
  obtain ⟨a, rfl⟩ := hv
  obtain ⟨b, rfl⟩ := hw
  have points := Json.Alike.points h
  rw [Wording.points_reading, Wording.points_reading] at points
  exact ⟨a, b, rfl, rfl, points⟩

theorem bytes_of_alike {bs cs : Text.Bytes}
    (h : Json.Alike ((Value.bytes bs).plain []) ((Value.bytes cs).plain [])) : bs = cs :=
  Text.hex_inj (Json.Alike.plain h)

theorem texts_of_alike {xs ys : List Value} (hx : ∀ x ∈ xs, x.IsText) (hy : ∀ y ∈ ys, y.IsText)
    (h : Json.Alike ((Value.list xs).plain []) ((Value.list ys).plain [])) :
    List.Forall₂ ReadsLike xs ys :=
  alike_items h fun x mx y my => readsLike_of_alike (hx x mx) (hy y my)

end Value

/-- The message is a text, and the path is one or is absent. -/
def Fault.Regular (f : Fault) : Prop := f.message.IsText ∧ (f.path = .none ∨ f.path.IsText)

namespace Environment

/-- The texts, paths and contents of an environment are what they are meant to be. -/
structure Regular (e : Environment) : Prop where
  printLog : ∀ entry ∈ e.printLog, entry.2.IsText
  consoleOut : ∀ v ∈ e.consoleOut, v.IsText
  consoleQueue : ∀ v ∈ e.consoleQueue, v.IsText
  consoleDefault : e.consoleDefault.IsText
  captured : ∀ f, e.captured = some f → f.Regular
  fileIn : ∀ v ∈ e.fileIn, ∃ bytes, v = .bytes bytes
  context : ∀ v ∈ e.context, v.IsText

end Environment

/-- Faults of one kind with the same message, in the same place or in none. -/
structure Fault.Agrees (f g : Fault) : Prop where
  kind : f.kind = g.kind
  message : f.message.ReadsLike g.message
  path : f.path = .none ∧ g.path = .none ∨ f.path.ReadsLike g.path

/-- Assertions with the same verdict that read alike. -/
structure Assertion.Agrees (a b : Assertion) : Prop where
  statement : a.statement.points = b.statement.points
  comment : a.comment.points = b.comment.points
  context : a.context.points = b.context.points
  verdict : a.verdict = b.verdict

/-- Environments that show the same, up to the order of entries in what is kept for the server. -/
structure Environment.Agrees (s t : Environment) : Prop where
  printLog : List.Forall₂ (fun a b => a.1 = b.1 ∧ a.2.ReadsLike b.2) s.printLog t.printLog
  consoleOut : List.Forall₂ Value.ReadsLike s.consoleOut t.consoleOut
  consoleQueue : List.Forall₂ Value.ReadsLike s.consoleQueue t.consoleQueue
  consoleDefault : s.consoleDefault.ReadsLike t.consoleDefault
  wall : s.clock.wall = t.clock.wall
  offset : s.clock.offset.map (·.micros) = t.clock.offset.map (·.micros)
  captured : Option.Rel Fault.Agrees s.captured t.captured
  fileExists : s.fileExists = t.fileExists
  fileFull : s.fileFull = t.fileFull
  fileOut : s.fileOut = t.fileOut
  fileIn : s.fileIn = t.fileIn
  seed : s.generator.seed = t.generator.seed
  echo : s.echo = t.echo
  consoleChar : s.consoleChar = t.consoleChar
  assertions : List.Forall₂ Assertion.Agrees s.assertions t.assertions
  context : List.Forall₂ Value.ReadsLike s.context t.context
  clientLocal : ∃ j k, s.clientLocal.canonicalize [] = .ok j ∧
    t.clientLocal.canonicalize [] = .ok k ∧ j.Alike k

namespace FaultKind

/-- A kind is known from its code. -/
theorem code_inj {a b : FaultKind} (h : a.code = b.code) : a = b := by
  cases a <;> cases b <;> first | rfl | simp [code] at h

end FaultKind

namespace Fault

def fields (f : Fault) : List (String × Value) :=
  [("code", f.code), ("message", f.message), ("path", f.path)]

theorem described_eq (f : Fault) : f.described = .ofFields f.fields := rfl

theorem agrees_of_alike {f g : Fault} (hf : f.Regular) (hg : g.Regular)
    (h : Json.Alike (f.described.plain []) (g.described.plain [])) : f.Agrees g := by
  rw [described_eq, described_eq] at h
  have distinct : (f.fields.map Prod.fst).Nodup := by simp [fields]
  have field (name : String) {v w : Value} (hv : (name, v) ∈ f.fields := by simp [fields])
      (hw : (name, w) ∈ g.fields := by simp [fields]) : Json.Alike (v.plain []) (w.plain []) :=
    Value.alike_field h rfl distinct hv hw
  have code : Json.Alike (Value.plain [] f.code) (Value.plain [] g.code) := field "code"
  have path : Json.Alike (f.path.plain []) (g.path.plain []) := field "path"
  refine ⟨FaultKind.code_inj (Json.Alike.plain code),
    Value.readsLike_of_alike hf.1 hg.1 (field "message"), ?_⟩
  rcases hf.2 with pf | pf
  · rcases hg.2 with pg | ⟨w, pg⟩
    · exact Or.inl ⟨pf, pg⟩
    · rw [pf, pg] at path
      cases path
  · rcases hg.2 with pg | pg
    · obtain ⟨w, pf⟩ := pf
      rw [pf, pg] at path
      cases path
    · exact Or.inr (Value.readsLike_of_alike pf pg path)

end Fault

theorem Verdict.name_inj {a b : Verdict} (h : a.name = b.name) : a = b := by
  cases a <;> cases b <;> first | rfl | simp [name] at h

namespace Assertion

def fields (a : Assertion) : List (String × Json) :=
  [("statement", .text a.statement.reading), ("comment", .text a.comment.reading),
    ("context", .text a.context.reading), ("result", .text a.verdict.name)]

theorem agrees_of_alike {a b : Assertion}
    (h : Json.Alike ((Value.assertion a).plain []) ((Value.assertion b).plain [])) :
    a.Agrees b := by
  have h : Json.Alike (Json.ofFields a.fields) (Json.ofFields b.fields) := h
  have distinct : (b.fields.map Prod.fst).Nodup := by simp [fields]
  have field (name : String) {v w : Json} (hv : (name, v) ∈ a.fields := by simp [fields])
      (hw : (name, w) ∈ b.fields := by simp [fields]) : Json.Alike v w := h.field distinct hv hw
  have points {v w : Wording} (both : Json.Alike (.text v.reading) (.text w.reading)) :
      v.points = w.points := by
    have same := both.points
    rwa [Wording.points_reading, Wording.points_reading] at same
  exact ⟨points (field "statement"), points (field "comment"), points (field "context"),
    Verdict.name_inj (Json.Alike.plain (field "result"))⟩

end Assertion

namespace Environment

theorem snapshot_eq (e : Environment) : e.snapshot = .ofFields e.parts := rfl

theorem parts_distinct (e : Environment) : (e.parts.map Prod.fst).Nodup := by
  simp [parts]

/-- Parts of one name are alike in two snapshots that are alike. -/
theorem part_alike {s t : Environment}
    (h : Json.Alike (s.snapshot.plain []) (t.snapshot.plain [])) (name : String) {v w : Value}
    (hv : (name, v) ∈ s.parts := by simp [parts]) (hw : (name, w) ∈ t.parts := by simp [parts]) :
    Json.Alike (v.plain []) (w.plain []) := by
  rw [snapshot_eq, snapshot_eq] at h
  exact Value.alike_field h rfl s.parts_distinct hv hw

theorem bool_eq {a b : Bool} (h : Json.Alike ((Value.bool a).plain []) ((Value.bool b).plain [])) :
    a = b := by
  cases h
  rfl

theorem int_eq {m n : Int} (h : Json.Alike ((Value.int m).plain []) ((Value.int n).plain [])) :
    m = n := by
  cases h
  rfl

theorem captured_agrees {f g : Option Fault} (hf : ∀ x, f = some x → x.Regular)
    (hg : ∀ y, g = some y → y.Regular)
    (h : Json.Alike ((Value.ofOption (f.map Fault.described)).plain [])
      ((Value.ofOption (g.map Fault.described)).plain [])) : Option.Rel Fault.Agrees f g := by
  cases f with
  | none =>
    cases g with
    | none => exact .none
    | some y => cases h
  | some x =>
    cases g with
    | none => cases h
    | some y => exact .some (Fault.agrees_of_alike (hf x rfl) (hg y rfl) h)

theorem files_eq {xs ys : List Value} (hx : ∀ x ∈ xs, ∃ bytes, x = .bytes bytes)
    (hy : ∀ y ∈ ys, ∃ bytes, y = .bytes bytes)
    (h : Json.Alike ((Value.list xs).plain []) ((Value.list ys).plain [])) : xs = ys := by
  have equal : List.Forall₂ Eq xs ys := Value.alike_items h fun x mx y my both => by
    obtain ⟨bs, rfl⟩ := hx x mx
    obtain ⟨cs, rfl⟩ := hy y my
    rw [Value.bytes_of_alike both]
  rwa [List.forall₂_eq_eq_eq] at equal

/-- The queue of the console and the line that follows it. -/
def console (e : Environment) : List (String × Value) :=
  [("queued", .list e.consoleQueue), ("default", e.consoleDefault)]

theorem console_alike {s t : Environment}
    (h : Json.Alike ((Value.ofFields s.console).plain []) ((Value.ofFields t.console).plain [])) :
    Json.Alike ((Value.list s.consoleQueue).plain []) ((Value.list t.consoleQueue).plain []) ∧
      Json.Alike (s.consoleDefault.plain []) (t.consoleDefault.plain []) := by
  have distinct : (s.console.map Prod.fst).Nodup := by simp [console]
  have field (name : String) {v w : Value} (hv : (name, v) ∈ s.console := by simp [console])
      (hw : (name, w) ∈ t.console := by simp [console]) : Json.Alike (v.plain []) (w.plain []) :=
    Value.alike_field h rfl distinct hv hw
  exact ⟨field "queued", field "default"⟩

theorem logged_agrees {a b : String × Value} (ha : a.2.IsText) (hb : b.2.IsText)
    (h : Json.Alike ((Value.list [a.1, a.2]).plain []) ((Value.list [b.1, b.2]).plain [])) :
    a.1 = b.1 ∧ a.2.ReadsLike b.2 := by
  cases h.items with
  | cons name rest =>
    cases rest with
    | cons text _ => exact ⟨name.plain, Value.readsLike_of_alike ha hb text⟩

/-- Environments whose snapshots have plain forms that are alike agree. -/
theorem agrees_of_alike {s t : Environment} (hs : s.Regular) (ht : t.Regular)
    (kept : ∃ j k, s.clientLocal.canonicalize [] = .ok j ∧ t.clientLocal.canonicalize [] = .ok k ∧
      j.Alike k)
    (h : Json.Alike (s.snapshot.plain []) (t.snapshot.plain [])) : s.Agrees t := by
  have clock : Json.Alike ((Value.instant s.clock).plain []) ((Value.instant t.clock).plain []) :=
    part_alike h "clock"
  obtain ⟨wall, offset⟩ := Time.Instant.text_inj (Json.Alike.plain clock)
  have shown (e : Environment) : ("console_in", Value.ofFields e.console) ∈ e.parts := by
    simp [parts, Environment.console, Value.ofFields, Value.ofString]
  obtain ⟨queue, default⟩ := console_alike (part_alike h "console_in" (shown s) (shown t))
  have written : List.Forall₂ Eq s.fileOut t.fileOut :=
    Value.alike_images (part_alike h "file_out") fun _ _ _ _ => Value.bytes_of_alike
  rw [List.forall₂_eq_eq_eq] at written
  have char : Json.Alike (Value.plain [] s.consoleChar) (Value.plain [] t.consoleChar) :=
    part_alike h "console_char"
  exact {
    printLog := Value.alike_images (part_alike h "print_log") fun a ma b mb =>
      logged_agrees (hs.printLog a ma) (ht.printLog b mb)
    consoleOut := Value.texts_of_alike hs.consoleOut ht.consoleOut (part_alike h "console_out")
    consoleQueue := Value.texts_of_alike hs.consoleQueue ht.consoleQueue queue
    consoleDefault := Value.readsLike_of_alike hs.consoleDefault ht.consoleDefault default
    wall := wall
    offset := offset
    captured := captured_agrees hs.captured ht.captured (part_alike h "captured_fault")
    fileExists := bool_eq (part_alike h "file_exists")
    fileFull := bool_eq (part_alike h "file_full")
    fileOut := written
    fileIn := files_eq hs.fileIn ht.fileIn (part_alike h "file_in")
    seed := int_eq (part_alike h "rng_seed")
    echo := bool_eq (part_alike h "echo")
    consoleChar := Json.Alike.plain char
    assertions := Value.alike_images (part_alike h "assertions") fun _ _ _ _ =>
      Assertion.agrees_of_alike
    context := Value.texts_of_alike hs.context ht.context (part_alike h "context")
    clientLocal := kept }

/-- What is kept for the server has a plain form if the snapshot has canonical bytes. -/
theorem clientLocal_canonicalize {e : Environment} {bytes : Text.Bytes}
    (h : e.snapshot.canonicalBytes = .ok bytes) :
    e.clientLocal.canonicalize [] = .ok (e.clientLocal.plain []) := by
  obtain ⟨reducible, _, _⟩ := Value.canonicalBytes_eq_ok.mp h
  have entries : Value.entryObstacle? []
      (e.parts.map fun (name, v) => (.ofString name, v)) = none := reducible
  have kept : e.clientLocal.obstacle? [] = none :=
    (Value.entryObstacle?_eq_none.mp entries).2 (.ofString "client_local", e.clientLocal)
      (by simp [parts])
  rw [Value.canonicalize, kept]

/-- The bytes that a fingerprint is taken of determine what an environment shows. -/
theorem agrees_of_canonicalBytes {s t : Environment} {bytes : Text.Bytes} (hs : s.Regular)
    (ht : t.Regular) (bs : s.snapshot.canonicalBytes = .ok bytes)
    (bt : t.snapshot.canonicalBytes = .ok bytes) : s.Agrees t := by
  have alike := Value.alike_of_canonicalBytes bs bt
  have kept : Json.Alike (s.clientLocal.plain []) (t.clientLocal.plain []) :=
    part_alike alike "client_local"
  exact agrees_of_alike hs ht
    ⟨_, _, clientLocal_canonicalize bs, clientLocal_canonicalize bt, kept⟩ alike

/-- A fresh environment with entries kept for the server. -/
def keeping (entries : List (String × Value)) : Environment :=
  { fresh with clientLocal := .ofFields entries }

def counted : Environment := keeping [("count", .int 1), ("name", .ofString "x")]

/-- The same entries in the other order, for another session, which no snapshot shows. -/
def recounted : Environment :=
  { keeping [("name", .ofString "x"), ("count", .int 1)] with session := "another-session" }

theorem write_recounted :
    (counted.snapshot.plain []).write = (recounted.snapshot.plain []).write := by
  have first : counted.clientLocal.plain [] =
      .ofFields [("count", .int 1), ("name", .text "x")] := rfl
  have second : recounted.clientLocal.plain [] =
      .ofFields [("name", .text "x"), ("count", .int 1)] := rfl
  have kept : (counted.clientLocal.plain []).write = (recounted.clientLocal.plain []).write := by
    have before : (Wording.plain "name").less (.plain "count") = false := by decide
    have after : (Wording.plain "count").less (.plain "name") = true := by decide
    rw [first, second]
    simp [Json.ofFields, Json.write_object, Json.sortByName, List.mergeSort,
      List.MergeSort.Internal.splitInTwo, before, after]
  -- Entries are written before they are sorted, so the rest of the snapshots is the same.
  rw [snapshot_eq, snapshot_eq, Value.plain_ofFields (parts_distinct _),
    Value.plain_ofFields (parts_distinct _), Json.ofFields, Json.ofFields, Json.write, Json.write,
    Json.writeEntries_eq, Json.writeEntries_eq]
  simp only [parts, List.map_cons, List.map_nil, kept]
  rfl

theorem recounted_agrees :
    counted.Regular ∧ recounted.Regular ∧ ∃ bytes, counted.snapshot.canonicalBytes = .ok bytes ∧
      recounted.snapshot.canonicalBytes = .ok bytes ∧ counted.Agrees recounted := by
  have hc : counted.Regular := by
    constructor <;> simp [counted, keeping, fresh, Value.IsText]
  have hr : recounted.Regular := by
    constructor <;> simp [recounted, keeping, fresh, Value.IsText]
  obtain ⟨bytes, bc⟩ := Value.canonicalBytes_of_paired (v := counted.snapshot) (by decide +kernel)
    (by decide +kernel) (by decide +kernel)
  obtain ⟨_, _, encoded⟩ := Value.canonicalBytes_eq_ok.mp bc
  rw [write_recounted] at encoded
  have br : recounted.snapshot.canonicalBytes = .ok bytes :=
    Value.canonicalBytes_eq_ok.mpr ⟨by decide +kernel, by decide +kernel, encoded⟩
  exact ⟨hc, hr, bytes, bc, br, agrees_of_canonicalBytes hc hr bc br⟩

end Environment

end Rehearsal
