import Mathlib.Logic.Relation
import Rehearsal.Proofs.Json.Ordinary
import Rehearsal.Proofs.Json.Reduced

/-!
# What is reduced in a value

A record is reduced as the dict of its fields. With that, a value has parts that are reduced by
themselves: the items of a sequence, the members of a set and what a dict keeps. Plain data is
built from such parts, so what is proved of it is proved by an induction that knows no records.
-/

namespace Rehearsal

theorem Fault.reading_display (f : Fault) : f.display.reading = f.display := by
  obtain ⟨kind, message, path⟩ := f
  rw [Fault.display]
  split
  · exact Wording.reading_append _ _
  · split
    · exact Wording.reading_append _ _
    · rfl

/-- The fields of an environment with their names, in order. -/
def Environment.fields (e : Environment) : List (String × Value) :=
  [("responder", .server []), ("session", .session e.session), ("client_local", e.clientLocal),
   ("print_log", .tuple (e.printLog.map fun (name, v) => .tuple [.ofString name, v])),
   ("console_out", .tuple e.consoleOut),
   ("console_in", .tuple [.tuple e.consoleQueue, e.consoleDefault]),
   ("clock", .instant e.clock), ("tick", .duration e.tick),
   ("captured_fault", .ofOption (e.captured.map .fault)),
   ("file_exists", .bool e.fileExists), ("file_full", .bool e.fileFull),
   ("file_out", .tuple (e.fileOut.map .bytes)), ("file_in", .tuple e.fileIn),
   ("rng", .ofGenerator e.generator), ("echo", .bool e.echo),
   ("console_char", .ofString e.consoleChar),
   ("assertions", .tuple (e.assertions.map .assertion)), ("context", .tuple e.context)]

theorem Environment.nodup_fields (e : Environment) : (e.fields.map Prod.fst).Nodup := by
  simp [fields]

namespace Value

/-! ## Records as dicts -/

theorem plainLog_eq (drop : List Wording) (log : List (String × Value)) :
    plainLog drop log = plainAll drop (log.map fun (name, v) => .tuple [.ofString name, v]) := by
  induction log with
  | nil => rfl
  | cons entry rest ih =>
    rw [plainLog, ih]
    rfl

theorem logObstacle?_eq (drop : List Wording) (log : List (String × Value)) :
    logObstacle? drop log =
      firstObstacle? drop (log.map fun (name, v) => .tuple [.ofString name, v]) := by
  induction log with
  | nil => rfl
  | cons entry rest ih =>
    have pair : (tuple [.ofString entry.1, entry.2]).obstacle? drop = entry.2.obstacle? drop :=
      Option.or_none
    rw [logObstacle?, ih, List.map_cons, firstObstacle?, pair]

/-- The handlers of a server as fields. -/
def handlers (origin : Origin) : List (String × Value) :=
  ["get", "post", "delete"].map fun method => (method, .ofString (handlerText origin method))

/-- A record, a server or an environment as the dict of its fields, and any other value as it is.
A handler is shown as a text. -/
def primitive : Value → Value
  | .handle h => .ofFields [("name", .ofString h.name)]
  | .success v => .ofFields [("value", v)]
  | .failure v => .ofFields [("error", v)]
  | .response r =>
    .ofFields [("status_code", r.status), ("body", .bytes r.body),
      ("headers", .tuple (r.headers.map fun (k, v) => .tuple [.ofString k, .ofString v])),
      ("url", r.url)]
  | .assertion a =>
    .ofFields [("statement", .text a.statement), ("comment", .text a.comment),
      ("context", .text a.context), ("result", .verdict a.verdict)]
  | .summary successes failures failed =>
    .ofFields [("num_successes", successes), ("num_failures", failures),
      ("failures", .tuple failed)]
  | .generator seed => .ofFields [("seed", seed)]
  | .session id => .ofFields [("session_id", .ofString id)]
  | .server origin => .ofFields (handlers origin)
  | .environment e => .ofFields e.fields
  | v => v

theorem plain_primitive (drop : List Wording) (v : Value) :
    v.primitive.plain drop = v.plain drop := by
  cases v with
  | response r =>
    obtain ⟨status, body, headers, url⟩ := r
    rw [primitive, plain_fields drop (by simp), plain, Response.plain]
    simp only [List.map_cons, List.map_nil, plain, plainAll_eq, List.map_map]
    rfl
  | server origin =>
    rw [primitive, plain_fields drop (by simp [handlers]), plain]
    rfl
  | environment e =>
    rw [primitive, plain_fields drop e.nodup_fields, plain]
    obtain ⟨_, _, _, _, _, _, _, _, captured, _, _, _, _, _, _, _, _, _⟩ := e
    have fault : (ofOption (captured.map .fault)).plain drop =
        (captured.map fun f => Json.text f.display).getD .null := by
      cases captured <;> rfl
    rw [Environment.plain, plainLog_eq, ← fault]
    simp only [Environment.fields, List.map_cons, List.map_nil, plain, plainAll_eq, List.map_map]
    rfl
  | handle _ | success _ | failure _ | assertion _ | summary _ _ _ | generator _ | session _ =>
    rw [primitive, plain_fields drop (by simp), plain]
    rfl
  | _ => rfl

theorem obstacle?_fields (drop : List Wording) (name : String) (v : Value)
    (rest : List (String × Value)) :
    (ofFields ((name, v) :: rest)).obstacle? drop =
      (if Json.isDropped drop name then Option.none else v.obstacle? drop).or
        ((ofFields rest).obstacle? drop) := by
  rw [ofFields, obstacle?, List.map_cons]
  exact entryObstacle?_text drop name v _

theorem obstacle?_noFields (drop : List Wording) : (ofFields []).obstacle? drop = Option.none := rfl

/-- Items of a kind that always has a plain form, such as the headers of a response. -/
theorem firstObstacle?_map {α : Type} (drop : List Wording) (item : α → Value)
    (free : ∀ a, (item a).obstacle? drop = Option.none) (items : List α) :
    firstObstacle? drop (items.map item) = Option.none := by
  rw [firstObstacle?_eq_none]
  intro x hx
  obtain ⟨a, _, rfl⟩ := List.mem_map.mp hx
  exact free a

theorem obstacle?_primitive (drop : List Wording) (v : Value) :
    v.primitive.obstacle? drop = v.obstacle? drop := by
  cases v with
  | response r =>
    obtain ⟨status, body, headers, url⟩ := r
    have texts := firstObstacle?_map drop
      (fun (k, v) => .tuple [.ofString k, .ofString v]) (fun _ => rfl) headers
    simp only [primitive, obstacle?_fields, obstacle?_noFields, obstacle?, Response.obstacle?,
      texts, ite_self, Option.or_none, Option.none_or]
  | environment e =>
    obtain ⟨_, _, _, _, _, _, _, _, captured, _, _, contents, _, _, _, _, assertions, _⟩ := e
    have fault : (ofOption (captured.map .fault)).obstacle? drop = Option.none := by
      cases captured <;> rfl
    have written := firstObstacle?_map drop bytes (fun _ => rfl) contents
    have recorded := firstObstacle?_map drop assertion (fun _ => rfl) assertions
    simp only [primitive, Environment.fields, obstacle?_fields, obstacle?_noFields, obstacle?,
      Environment.obstacle?, logObstacle?_eq, firstObstacle?, fault, written, recorded, ofGenerator,
      ofString, ite_self, Option.or_none, Option.none_or]
  | summary successes failures failed =>
    simp only [primitive, obstacle?_fields, obstacle?_noFields, obstacle?, Option.or_none]
  | handle _ | success _ | failure _ | assertion _ | generator _ | session _ | server _ =>
    simp only [primitive, handlers, List.map_cons, List.map_nil, obstacle?_fields,
      obstacle?_noFields, obstacle?, ofString, verdict, ite_self, Option.or_none]
  | _ => rfl

/-! ## Parts -/

/-- What a value has in it to be reduced: items, members, and what is kept under a name. -/
def parts (drop : List Wording) (v : Value) : List Value :=
  match v.primitive with
  | .list items | .tuple items | .set items | .frozenset items => items
  | .dict entries => kept drop entries
  | _ => []

/-- A set, of either kind, with these members. -/
def IsSetOf (v : Value) (members : List Value) : Prop := v = .set members ∨ v = .frozenset members

/-- The value itself, its parts, their parts and so on. -/
def Within (drop : List Wording) : Value → Value → Prop :=
  Relation.ReflTransGen fun v x => x ∈ v.parts drop

/-- No set at any depth. -/
def SetFree (v : Value) : Prop := ∀ x members, Within [] v x → ¬ x.IsSetOf members

/-- A set that is not dropped has a member with an integer too long to be written. -/
def HasLongMember (drop : List Wording) (v : Value) : Prop :=
  ∃ x members, Within drop v x ∧ x.IsSetOf members ∧
    ∃ m ∈ members, (m.plain drop).holdsLong = true

theorem primitive_primitive (v : Value) : v.primitive.primitive = v.primitive := by
  cases v <;> rfl

theorem parts_primitive (drop : List Wording) (v : Value) :
    v.primitive.parts drop = v.parts drop := by
  rw [parts, parts, primitive_primitive]

theorem isSetOf_primitive {v : Value} {members : List Value} :
    v.primitive.IsSetOf members ↔ v.IsSetOf members := by
  cases v <;> simp [primitive, IsSetOf, ofFields]

theorem mem_kept {drop : List Wording} {entries : List (Value × Value)} {x : Value} :
    x ∈ kept drop entries ↔ ∃ e ∈ entries, Json.isDropped drop e.1.keyOf = false ∧ e.2 = x := by
  simp [kept, and_assoc]

/-- Fewer parts are reduced if names are dropped. -/
theorem parts_subset (drop : List Wording) (v : Value) : v.parts drop ⊆ v.parts [] := by
  intro x hx
  rw [parts] at hx ⊢
  split at hx
  all_goals try exact hx
  obtain ⟨e, he, _, rfl⟩ := mem_kept.mp hx
  exact mem_kept.mpr ⟨e, he, rfl, rfl⟩

theorem Within.undropped {drop : List Wording} {v x : Value} (h : Within drop v x) :
    Within [] v x := by
  induction h with
  | refl => exact .refl
  | tail _ part ih => exact ih.tail (parts_subset drop _ part)

theorem SetFree.noLongMember {v : Value} (h : v.SetFree) (drop : List Wording) :
    ¬ v.HasLongMember drop := by
  rintro ⟨x, members, within, isSet, _⟩
  exact h x members within.undropped isSet

/-- What is no set itself has none in it if its parts have none. -/
theorem setFree_iff {v : Value} :
    v.SetFree ↔ (∀ members, ¬ v.IsSetOf members) ∧ ∀ x ∈ v.parts [], x.SetFree := by
  constructor
  · intro h
    exact ⟨fun members => h v members .refl,
      fun x part y members within => h y members (within.head part)⟩
  · rintro ⟨noSet, each⟩ x members within
    obtain rfl | ⟨y, part, rest⟩ := within.cases_head
    · exact noSet members
    · exact each y part x members rest

theorem SetFree.part {v x : Value} (h : v.SetFree) (part : x ∈ v.parts []) : x.SetFree :=
  (setFree_iff.mp h).2 x part

theorem setFree_primitive {v : Value} : v.primitive.SetFree ↔ v.SetFree := by
  rw [setFree_iff, setFree_iff (v := v), parts_primitive]
  simp only [isSetOf_primitive]

theorem hasLongMember_iff {drop : List Wording} {v : Value} :
    v.HasLongMember drop ↔
      (∃ members, v.IsSetOf members ∧ ∃ m ∈ members, (m.plain drop).holdsLong = true) ∨
        ∃ x ∈ v.parts drop, x.HasLongMember drop := by
  constructor
  · rintro ⟨x, members, within, isSet, long⟩
    obtain rfl | ⟨y, part, rest⟩ := within.cases_head
    · exact .inl ⟨members, isSet, long⟩
    · exact .inr ⟨y, part, x, members, rest, isSet, long⟩
  · rintro (⟨members, isSet, long⟩ | ⟨x, part, y, members, within, isSet, long⟩)
    · exact ⟨v, members, .refl, isSet, long⟩
    · exact ⟨y, members, within.head part, isSet, long⟩

theorem hasLongMember_primitive {drop : List Wording} {v : Value} :
    v.primitive.HasLongMember drop ↔ v.HasLongMember drop := by
  rw [hasLongMember_iff, hasLongMember_iff (v := v), parts_primitive]
  simp only [isSetOf_primitive]

/-! ## Data without records -/

/-- A value without parts, which is reduced to the same plain one whatever is dropped. -/
structure LeafOf (v : Value) (j : Json) : Prop where
  plain : ∀ drop, v.plain drop = j := by exact fun _ => rfl
  obstacle : ∀ drop, v.obstacle? drop = Option.none := by exact fun _ => rfl
  parts : ∀ drop, v.parts drop = [] := by exact fun _ => rfl
  noSet : ∀ members, ¬ v.IsSetOf members := by simp [IsSetOf]
  reduced : ∀ drop, j.Reduced drop
  whole : ∀ drop, j.without drop = j := by exact fun _ => rfl

/-- Plain data in which a record is the dict of its fields. -/
inductive Built : Value → Prop where
  | leaf {v : Value} {j : Json} (leaf : v.LeafOf j) : Built v
  | list {items : List Value} (each : ∀ x ∈ items, Built x) : Built (.list items)
  | tuple {items : List Value} (each : ∀ x ∈ items, Built x) : Built (.tuple items)
  | set {items : List Value} (each : ∀ x ∈ items, Built x) : Built (.set items)
  | frozenset {items : List Value} (each : ∀ x ∈ items, Built x) : Built (.frozenset items)
  | dict {entries : List (Value × Value)} (keys : ∀ e ∈ entries, e.1.IsText)
      (apart : KeysApart entries) (each : ∀ e ∈ entries, Built e.2) : Built (.dict entries)
  | record {v : Value} (inner : Built v.primitive) : Built v

namespace Built

theorem text (w : Wording) : Built (.text w) :=
  .leaf (j := .text w.reading) { reduced := fun _ => .text w.reading_reading }

theorem bytes (bs : Text.Bytes) : Built (.bytes bs) :=
  .leaf (j := .text (Text.hex bs)) { reduced := fun _ => .text rfl }

/-- A dict of fields. -/
theorem fields {fields : List (String × Value)} (distinct : (fields.map Prod.fst).Nodup)
    (each : ∀ f ∈ fields, Built f.2) : Built (.ofFields fields) := by
  refine .dict ?_ (keysApart_ofFields distinct) ?_
  · intro e he
    obtain ⟨f, _, rfl⟩ := List.mem_map.mp he
    exact ⟨.plain f.1, rfl⟩
  · intro e he
    obtain ⟨f, hf, rfl⟩ := List.mem_map.mp he
    exact each f hf

/-- The headers of a response. -/
theorem headers (headers : List (String × String)) :
    Built (.tuple (headers.map fun (k, v) => .tuple [.ofString k, .ofString v])) := by
  refine .tuple fun x hx => ?_
  obtain ⟨header, _, rfl⟩ := List.mem_map.mp hx
  refine .tuple ?_
  simp only [List.forall_mem_cons]
  exact ⟨text _, text _, List.forall_mem_nil _⟩

end Built

theorem Ordinary.built {v : Value} (h : v.Ordinary) : v.Built := by
  induction h with
  | none => exact .leaf { reduced := fun _ => .null }
  | bool b => exact .leaf { reduced := fun _ => .bool b }
  | int n => exact .leaf { reduced := fun _ => .int n }
  | float _ | nan _ | duration _ => exact .leaf { reduced := fun _ => .float _ }
  | instant _ => exact .leaf { reduced := fun _ => .text rfl }
  | @fault f genuine => exact .leaf { reduced := fun _ => .text f.reading_display }
  | text genuine => exact .text _
  | bytes bs => exact .bytes bs
  | list each ih => exact .list ih
  | tuple each ih => exact .tuple ih
  | set each ih => exact .set ih
  | frozenset each ih => exact .frozenset ih
  | @dict entries names each ih =>
    have distinct := names.distinct
    rw [List.map_map] at distinct
    refine .dict (fun e he => ?_) (keysApart_of_nodup distinct) ih
    obtain ⟨w, text, _⟩ := names.genuine e.1 (List.mem_map_of_mem he)
    exact ⟨w, text⟩
  | handle _ | session _ =>
    exact .record (.fields (by simp) (List.forall_mem_singleton.mpr (.text _)))
  | success inner ih | failure inner ih | generator inner ih =>
    exact .record (.fields (by simp) (List.forall_mem_singleton.mpr ih))
  | assertion genuine =>
    refine .record (.fields (by simp) ?_)
    simp only [List.forall_mem_cons]
    exact ⟨.text _, .text _, .text _, .text _, List.forall_mem_nil _⟩
  | response body headers first second ih ih' =>
    refine .record (.fields (by simp) ?_)
    simp only [List.forall_mem_cons]
    exact ⟨ih, .bytes body, .headers headers, ih', List.forall_mem_nil _⟩
  | summary first second each ih ih' ihs =>
    refine .record (.fields (by simp) ?_)
    simp only [List.forall_mem_cons]
    exact ⟨ih, ih', .tuple ihs, List.forall_mem_nil _⟩

end Value

end Rehearsal
