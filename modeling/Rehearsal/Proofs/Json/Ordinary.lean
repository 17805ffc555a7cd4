import Rehearsal.Proofs.Json.Prints
import Rehearsal.Proofs.Json.Snapshot

/-!
# Plain data

Values of plain data have a plain form, unless an integer in them is too long to be written, and
their canonical text tells its code points apart by their numbers. Both are proved by induction on
what makes a value plain data.
-/

namespace Rehearsal

open Text (CodePoint)

namespace Value

/-- A text in which no surrogate has the number of a character. -/
def IsGenuineText (v : Value) : Prop := ∃ w, v = .text w ∧ w.Genuine

theorem IsGenuineText.keyOf {k : Value} (h : k.IsGenuineText) : k.keyOf.Genuine := by
  obtain ⟨w, rfl, genuine⟩ := h
  exact genuine

/-- Distinct texts, such as the keys of a dict. -/
structure Names (keys : List Value) : Prop where
  genuine : ∀ k ∈ keys, k.IsGenuineText
  distinct : (keys.map (·.keyOf.points)).Nodup

theorem Names.of_perm {keys others : List Value} (h : Names keys) (perm : keys.Perm others) :
    Names others where
  genuine k hk := h.genuine k (perm.mem_iff.mpr hk)
  distinct := (perm.map _).nodup_iff.mp h.distinct

theorem Names.plain_dict {entries : List (Value × Value)} (h : Names (entries.map Prod.fst)) :
    (Value.dict entries).plain [] = .object (entries.map fun (k, v) => (k.keyOf, v.plain [])) := by
  have distinct := h.distinct
  rw [List.map_map] at distinct
  exact Value.plain_dict distinct

end Value

/-- The message is a text, and the path is one or is absent. -/
def Fault.Genuine (f : Fault) : Prop :=
  f.message.IsGenuineText ∧ (f.path = .none ∨ f.path.IsGenuineText)

def Assertion.Genuine (a : Assertion) : Prop :=
  a.statement.Genuine ∧ a.comment.Genuine ∧ a.context.Genuine

/-- Plain data: numbers, texts, bytes, times, sequences, sets, dicts with distinct texts as keys,
and records and faults over such values. A fault is reduced to a text, a record to the dict of its
fields. Servers and environments, whose handlers are functions, are no plain data, nor are settings,
which are shown by rules of their own. -/
inductive Value.Ordinary : Value → Prop where
  | none : Ordinary .none
  | bool (b : Bool) : Ordinary (.bool b)
  | int (n : Int) : Ordinary (.int n)
  | float (x : Float) : Ordinary (.float x)
  | nan (origin : Origin) : Ordinary (.nan origin)
  | text {w : Wording} (genuine : w.Genuine) : Ordinary (.text w)
  | bytes (bs : Text.Bytes) : Ordinary (.bytes bs)
  | instant (t : Time.Instant) : Ordinary (.instant t)
  | duration (d : Time.Duration) : Ordinary (.duration d)
  | list {items : List Value} (each : ∀ x ∈ items, Ordinary x) : Ordinary (.list items)
  | tuple {items : List Value} (each : ∀ x ∈ items, Ordinary x) : Ordinary (.tuple items)
  | set {items : List Value} (each : ∀ x ∈ items, Ordinary x) : Ordinary (.set items)
  | frozenset {items : List Value} (each : ∀ x ∈ items, Ordinary x) : Ordinary (.frozenset items)
  | dict {entries : List (Value × Value)} (names : Names (entries.map Prod.fst))
      (each : ∀ e ∈ entries, Ordinary e.2) : Ordinary (.dict entries)
  | handle (h : Handle) : Ordinary (.handle h)
  | session (id : String) : Ordinary (.session id)
  | fault {f : Fault} (genuine : f.Genuine) : Ordinary (.fault f)
  | assertion {a : Assertion} (genuine : a.Genuine) : Ordinary (.assertion a)
  | success {v : Value} (inner : Ordinary v) : Ordinary (.success v)
  | failure {v : Value} (inner : Ordinary v) : Ordinary (.failure v)
  | generator {v : Value} (inner : Ordinary v) : Ordinary (.generator v)
  | response {status url : Value} (body : Text.Bytes) (headers : List (String × String))
      (first : Ordinary status) (second : Ordinary url) :
      Ordinary (.response ⟨status, body, headers, url⟩)
  | summary {successes failures : Value} {failed : List Value} (first : Ordinary successes)
      (second : Ordinary failures) (each : ∀ x ∈ failed, Ordinary x) :
      Ordinary (.summary successes failures failed)

namespace Value

/-! ## What has no plain form -/

theorem firstObstacle?_eq (items : List Value) :
    firstObstacle? [] items = (items.map (obstacle? [])).findSome? id := by
  induction items with
  | nil => rfl
  | cons item rest ih =>
    rw [firstObstacle?, ih, List.map_cons, List.findSome?_cons]
    cases item.obstacle? [] <;> rfl

theorem entryObstacle?_eq {entries : List (Value × Value)}
    (keys : ∀ k ∈ entries.map Prod.fst, k.IsGenuineText) :
    entryObstacle? [] entries = (entries.map (·.2.obstacle? [])).findSome? id := by
  induction entries with
  | nil => rfl
  | cons e rest ih =>
    obtain ⟨k, v⟩ := e
    obtain ⟨⟨w, rfl, _⟩, later⟩ := List.forall_mem_cons.mp keys
    rw [entryObstacle?_text, Json.isDropped_nil, if_neg Bool.false_ne_true, ih later,
      List.map_cons, List.findSome?_cons]
    cases v.obstacle? [] <;> rfl

/-! ## The fields of records -/

def responseFields (status : Value) (body : Text.Bytes) (headers : List (String × String))
    (url : Value) : List (String × Json) :=
  [("status_code", status.plain []), ("body", .text (Text.hex body)),
    ("headers", .array (headers.map fun (k, v) => .array [.text k, .text v])),
    ("url", url.plain [])]

theorem plain_response (status : Value) (body : Text.Bytes) (headers : List (String × String))
    (url : Value) : (Value.response ⟨status, body, headers, url⟩).plain [] =
      Json.ofFields (responseFields status body headers url) := by
  rw [plain, Response.plain]
  rfl

def summaryFields (successes failures : Value) (failed : List Value) : List (String × Json) :=
  [("num_successes", successes.plain []), ("num_failures", failures.plain []),
    ("failures", .array (plainAll [] failed))]

theorem plain_summary (successes failures : Value) (failed : List Value) :
    (Value.summary successes failures failed).plain [] =
      Json.ofFields (summaryFields successes failures failed) := by
  rw [plain]
  rfl

theorem anyHoldsLong_plainAll (items : List Value) :
    Json.anyHoldsLong (plainAll [] items) = items.any fun x => (x.plain []).holdsLong := by
  rw [Json.anyHoldsLong_eq, plainAll_eq, List.any_map]
  rfl

/-- The one thing that keeps the value from having a plain form is an integer that is too long. -/
def OnlyLong (v : Value) : Prop :=
  ∀ e, v.obstacle? [] = some e → e = .rejected .longNumber ∧ (v.plain []).holdsLong = true

theorem onlyLong_items {items : List Value} (each : ∀ x ∈ items, x.OnlyLong) {e : Error}
    (h : firstObstacle? [] items = some e) :
    e = .rejected .longNumber ∧ Json.anyHoldsLong (plainAll [] items) = true := by
  rw [firstObstacle?_eq] at h
  obtain ⟨o, ho, found⟩ := List.exists_of_findSome?_eq_some h
  obtain ⟨x, hx, rfl⟩ := List.mem_map.mp ho
  obtain ⟨long, holds⟩ := each x hx e found
  refine ⟨long, ?_⟩
  rw [anyHoldsLong_plainAll]
  exact List.any_eq_true.mpr ⟨x, hx, holds⟩

theorem onlyLong_set {items : List Value} (each : ∀ x ∈ items, x.OnlyLong) {e : Error}
    (h : (firstObstacle? [] items).or (orderObstacle? (plainAll [] items)) = some e) :
    e = .rejected .longNumber ∧
      (Json.array (Json.sortByText (plainAll [] items))).holdsLong = true := by
  rw [Json.holdsLong_sortByText]
  obtain first | ⟨_, order⟩ := Option.or_eq_some_iff.mp h
  · exact onlyLong_items each first
  · rw [orderObstacle?] at order
    split at order
    · next long =>
      cases order
      exact ⟨rfl, long⟩
    · cases order

theorem onlyLong_dict {entries : List (Value × Value)} (names : Names (entries.map Prod.fst))
    (each : ∀ e ∈ entries, e.2.OnlyLong) : (dict entries).OnlyLong := by
  intro error h
  rw [obstacle?, entryObstacle?_eq names.genuine] at h
  obtain ⟨o, ho, found⟩ := List.exists_of_findSome?_eq_some h
  obtain ⟨e, he, rfl⟩ := List.mem_map.mp ho
  obtain ⟨long, holds⟩ := each e he error found
  refine ⟨long, ?_⟩
  rw [names.plain_dict, Json.holdsLong, Json.anyEntryHoldsLong_eq, List.any_map]
  exact List.any_eq_true.mpr ⟨e, he, holds⟩

/-- What keeps a field from having a plain form is in the plain form of the record. -/
theorem OnlyLong.field {v : Value} (h : v.OnlyLong) (name : String) {fields : List (String × Json)}
    (field : (name, v.plain []) ∈ fields) {e : Error} (he : v.obstacle? [] = some e) :
    e = .rejected .longNumber ∧ (Json.ofFields fields).holdsLong = true := by
  obtain ⟨long, holds⟩ := h e he
  exact ⟨long, Json.holdsLong_of_field field holds⟩

theorem Ordinary.onlyLong {v : Value} (h : v.Ordinary) : v.OnlyLong := by
  induction h with
  | list each ih | tuple each ih =>
    intro e he
    rw [obstacle?] at he
    rw [plain, Json.holdsLong]
    exact onlyLong_items ih he
  | set each ih | frozenset each ih =>
    intro e he
    rw [obstacle?] at he
    rw [plain]
    exact onlyLong_set ih he
  | dict names each ih => exact onlyLong_dict names ih
  | success inner ih | failure inner ih | generator inner ih =>
    intro e he
    rw [obstacle?, Json.isDropped_nil, if_neg Bool.false_ne_true] at he
    rw [plain]
    exact ih.field _ (List.mem_cons_self ..) he
  | @response status url body headers first second ih ih' =>
    intro e he
    rw [obstacle?, Response.obstacle?, Json.isDropped_nil, Json.isDropped_nil,
      if_neg Bool.false_ne_true, if_neg Bool.false_ne_true] at he
    rw [plain_response, responseFields]
    obtain he | ⟨_, he⟩ := Option.or_eq_some_iff.mp he
    · exact ih.field "status_code" (by simp) he
    · exact ih'.field "url" (by simp) he
  | @summary successes failures failed first second each ih ih' ihs =>
    intro e he
    simp only [obstacle?, Json.isDropped_nil, Bool.false_eq_true, ↓reduceIte] at he
    rw [plain_summary, summaryFields]
    obtain he | ⟨_, he⟩ := Option.or_eq_some_iff.mp he
    · exact ih.field "num_successes" (by simp) he
    obtain he | ⟨_, he⟩ := Option.or_eq_some_iff.mp he
    · exact ih'.field "num_failures" (by simp) he
    · obtain ⟨long, holds⟩ := onlyLong_items ihs he
      have field : ("failures", .array (plainAll [] failed)) ∈
          summaryFields successes failures failed := by
        simp [summaryFields]
      exact ⟨long, Json.holdsLong_of_field field holds⟩
  | _ =>
    intro e he
    simp [obstacle?] at he

/-! ## Genuine texts -/

theorem genuine_text {w : Wording} (h : w.Genuine) : ∀ p ∈ (Json.text w).write, p.Genuine :=
  Json.forall_quote CodePoint.genuine_char h

theorem genuine_string (s : String) : ∀ p ∈ (Json.text (.plain s)).write, p.Genuine :=
  genuine_text (Wording.genuine_plain s)

theorem genuine_items {items : List Value}
    (each : ∀ x ∈ items, ∀ p ∈ (x.plain []).write, p.Genuine) :
    ∀ item ∈ plainAll [] items, ∀ p ∈ item.write, p.Genuine := by
  intro item hi
  rw [plainAll_eq] at hi
  obtain ⟨x, hx, rfl⟩ := List.mem_map.mp hi
  exact each x hx

theorem genuine_display {f : Fault} (h : f.Genuine) : f.display.Genuine := by
  obtain ⟨kind, message, path⟩ := f
  obtain ⟨⟨m, rfl, hm⟩, hp⟩ := h
  have head : (if (text m).truth then .plain (kind.code ++ ": ") ++ (text m).display
      else (kind.code : Wording)).Genuine := by
    split
    · exact (Wording.genuine_plain _).append hm.display
    · exact Wording.genuine_plain _
  rw [Fault.display]
  obtain rfl | ⟨w, rfl, hw⟩ := hp
  · exact head
  · split
    · exact ((head.append (Wording.genuine_plain _)).append hw.display).append
        (Wording.genuine_plain _)
    · exact head

/-- The text of plain data has no surrogate with the number of a character. -/
theorem Ordinary.genuine {v : Value} (h : v.Ordinary) : ∀ p ∈ (v.plain []).write, p.Genuine := by
  have chars := CodePoint.genuine_char
  induction h with
  | none | int _ | float _ | nan _ | duration _ =>
    rw [plain]
    exact Json.forall_pointsOf chars _
  | bool b =>
    rw [plain]
    cases b <;> exact Json.forall_pointsOf chars _
  | text genuine =>
    rw [plain]
    exact genuine_text genuine.reading
  | bytes _ | instant _ =>
    rw [plain]
    exact genuine_string _
  | list each ih | tuple each ih =>
    rw [plain]
    exact Json.forall_array chars (genuine_items ih)
  | set each ih | frozenset each ih =>
    rw [plain]
    refine Json.forall_array chars fun item hi => ?_
    exact genuine_items ih item (List.mem_mergeSort.mp hi)
  | @dict entries names each ih =>
    rw [names.plain_dict]
    apply Json.forall_object chars
    · intro e he
      obtain ⟨f, hf, rfl⟩ := List.mem_map.mp he
      exact (names.genuine f.1 (List.mem_map_of_mem hf)).keyOf
    · intro e he
      obtain ⟨f, hf, rfl⟩ := List.mem_map.mp he
      exact ih f hf
  | handle _ | session _ =>
    rw [plain]
    exact Json.forall_fields chars (List.forall_mem_singleton.mpr (genuine_string _))
  | fault genuine =>
    rw [plain]
    exact genuine_text (genuine_display genuine)
  | @assertion a genuine =>
    obtain ⟨statement, comment, context⟩ := genuine
    have fields : Json.ofAssertion [] a = Json.ofFields a.fields := rfl
    rw [plain, fields]
    apply Json.forall_fields chars
    simp only [Assertion.fields, List.forall_mem_cons]
    exact ⟨genuine_text statement.reading, genuine_text comment.reading,
      genuine_text context.reading, genuine_string _, List.forall_mem_nil _⟩
  | success inner ih | failure inner ih | generator inner ih =>
    rw [plain]
    exact Json.forall_fields chars (List.forall_mem_singleton.mpr ih)
  | @response status url body headers first second ih ih' =>
    have pairs : ∀ item ∈ headers.map fun (k, v) => Json.array [.text (.plain k), .text (.plain v)],
        ∀ p ∈ item.write, p.Genuine := by
      intro item hi
      obtain ⟨⟨k, v⟩, _, rfl⟩ := List.mem_map.mp hi
      apply Json.forall_array chars
      simp only [List.forall_mem_cons]
      exact ⟨genuine_string k, genuine_string v, List.forall_mem_nil _⟩
    rw [plain_response]
    apply Json.forall_fields chars
    simp only [responseFields, List.forall_mem_cons]
    exact ⟨ih, genuine_string _, Json.forall_array chars pairs, ih', List.forall_mem_nil _⟩
  | @summary successes failures failed first second each ih ih' ihs =>
    rw [plain_summary]
    apply Json.forall_fields chars
    simp only [summaryFields, List.forall_mem_cons]
    exact ⟨ih, ih', Json.forall_array chars (genuine_items ihs), List.forall_mem_nil _⟩

end Value

end Rehearsal
