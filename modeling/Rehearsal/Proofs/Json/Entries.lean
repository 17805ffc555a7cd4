import Rehearsal.Proofs.Json.Parts
import Rehearsal.Proofs.Json.Reordered

/-!
# What becomes of the entries of a dict

The entries of a dict are reduced one after the other to an object, each under the text of its key.
Where no two keys have one text, none is lost, at any depth. Of entries whose keys have one text,
such as the number one and the digit that is written for it, only the last one is found in the
object, so dicts that differ in another one of them are reduced to the same.
-/

namespace Rehearsal

namespace Wording

theorem same_refl (a : Wording) : a.same a = true := same_iff.mpr rfl

theorem same_comm (a b : Wording) : a.same b = b.same a := by
  rw [Bool.eq_iff_iff, same_iff, same_iff, eq_comm]

theorem same_congr {a b : Wording} (h : a.same b = true) (c : Wording) : a.same c = b.same c := by
  rw [Bool.eq_iff_iff, same_iff, same_iff, same_iff.mp h]

end Wording

/-! ## Names of an object -/

namespace Json

variable {fields others : List (Wording × Json)}

/-- The value that stands under a name. -/
def at? (name : Wording) (fields : List (Wording × Json)) : Option Json :=
  (fields.find? fun f => f.1.same name).map Prod.snd

/-- No name stands twice. -/
def Apart (fields : List (Wording × Json)) : Prop :=
  fields.Pairwise fun f g => f.1.same g.1 = false

theorem at?_cons (name : Wording) (f : Wording × Json) (rest : List (Wording × Json)) :
    at? name (f :: rest) = if f.1.same name then some f.2 else at? name rest := by
  rw [at?, at?, List.find?_cons]
  cases f.1.same name <;> rfl

theorem at?_put (name key : Wording) (value : Json) (fields : List (Wording × Json)) :
    at? name (put key value fields) = if key.same name then some value else at? name fields := by
  induction fields with
  | nil => rw [put, at?_cons]
  | cons f rest ih =>
    rw [put, at?_cons]
    cases same : f.1.same key with
    | true =>
      rw [if_pos rfl, at?_cons, Wording.same_congr same name]
      split <;> rfl
    | false =>
      rw [if_neg Bool.false_ne_true, at?_cons, ih]
      cases other : f.1.same name with
      | true =>
        have apart : key.same name = false := by
          rw [Wording.same_comm, ← Wording.same_congr other, same]
        rw [apart]
        rfl
      | false => rfl

/-- A name that stands there keeps its place. -/
theorem put_standing {key : Wording} (value : Json) (standing : ∃ f ∈ fields, f.1.same key = true) :
    (put key value fields).map Prod.fst = fields.map Prod.fst := by
  induction fields with
  | nil => simp at standing
  | cons f rest ih =>
    rw [put]
    cases same : f.1.same key with
    | true => rfl
    | false =>
      obtain here | later := (List.exists_mem_cons_iff ..).mp standing
      · rw [same] at here
        cases here
      · rw [if_neg Bool.false_ne_true, List.map_cons, List.map_cons, ih later]

/-- Which names stand where does not depend on the values. -/
theorem put_names {key : Wording} (v w : Json) (names : fields.map Prod.fst = others.map Prod.fst) :
    (put key v fields).map Prod.fst = (put key w others).map Prod.fst := by
  induction fields generalizing others with
  | nil =>
    obtain rfl : others = [] := List.map_eq_nil_iff.mp names.symm
    rfl
  | cons f rest ih =>
    cases others with
    | nil => cases names
    | cons g more =>
      rw [List.map_cons, List.map_cons, List.cons.injEq] at names
      obtain ⟨name, names⟩ := names
      rw [put, put, name]
      split
      · rw [List.map_cons, List.map_cons, names]
      · rw [List.map_cons, List.map_cons, ih names]

theorem Apart.put (apart : Apart fields) (key : Wording) (value : Json) :
    Apart (put key value fields) := by
  by_cases standing : ∃ f ∈ fields, f.1.same key = true
  · have names := put_standing value standing
    rw [Apart, ← List.pairwise_map (f := Prod.fst) (R := fun a b => Wording.same a b = false),
      names, List.pairwise_map]
    exact apart
  · have fresh : ∀ f ∈ fields, f.1.same key = false := by simpa using standing
    rw [Value.put_fresh fresh, Apart, List.pairwise_append]
    refine ⟨apart, List.pairwise_singleton _ _, fun f hf g hg => ?_⟩
    rw [List.mem_singleton.mp hg]
    exact fresh f hf

theorem at?_eq_none {name : Wording} (absent : ∀ n ∈ fields.map Prod.fst, n.same name = false) :
    at? name fields = none := by
  rw [at?, Option.map_eq_none_iff, List.find?_eq_none]
  intro f hf
  rw [absent f.1 (List.mem_map_of_mem hf)]
  exact Bool.false_ne_true

/-- Objects with the same names in the same places are told apart by what stands under a name. -/
theorem eq_of_at? (names : fields.map Prod.fst = others.map Prod.fst) (apart : Apart fields)
    (same : ∀ name, at? name fields = at? name others) : fields = others := by
  induction fields generalizing others with
  | nil => exact (List.map_eq_nil_iff.mp names.symm).symm
  | cons f rest ih =>
    cases others with
    | nil => cases names
    | cons g more =>
      obtain ⟨n, v⟩ := f
      obtain ⟨n', w⟩ := g
      obtain ⟨rfl, tails⟩ : n = n' ∧ rest.map Prod.fst = more.map Prod.fst := by
        simpa using names
      obtain ⟨first, later⟩ := List.pairwise_cons.mp apart
      have value : some v = some w := by simpa [at?_cons, Wording.same_refl] using same n
      have others : rest = more := by
        refine ih tails later fun name => ?_
        cases here : n.same name with
        | true =>
          have absent : ∀ m ∈ rest.map Prod.fst, m.same name = false := by
            intro m hm
            obtain ⟨f, hf, rfl⟩ := List.mem_map.mp hm
            rw [Wording.same_comm, ← Wording.same_congr here]
            exact first f hf
          rw [at?_eq_none absent, at?_eq_none (tails ▸ absent)]
        | false => simpa [at?_cons, here] using same name
      rw [Option.some.inj value, others]

end Json

namespace Value

/-! ## The entries of a dict -/

/-- The value of the last entry whose key has this text. -/
def last? (name : Wording) (entries : List (Value × Value)) : Option Value :=
  (entries.reverse.find? fun e => e.1.keyOf.same name).map Prod.snd

theorem last?_append (name : Wording) (entries more : List (Value × Value)) :
    last? name (entries ++ more) = (last? name more).or (last? name entries) := by
  rw [last?, last?, last?, List.reverse_append, List.find?_append, Option.map_or]

theorem last?_cons (name : Wording) (e : Value × Value) (rest : List (Value × Value)) :
    last? name (e :: rest) =
      (last? name rest).or (if e.1.keyOf.same name then some e.2 else Option.none) := by
  have single : last? name [e] = if e.1.keyOf.same name then some e.2 else Option.none := by
    rw [last?, List.reverse_singleton, List.find?_singleton]
    split <;> rfl
  rw [← List.singleton_append, last?_append, single]

theorem plainEntries_cons (done : List (Wording × Json)) (e : Value × Value)
    (rest : List (Value × Value)) : plainEntries [] done (e :: rest) =
      plainEntries [] (Json.put e.1.keyOf (e.2.plain []) done) rest := by
  rw [plainEntries, Json.isDropped_nil, if_neg Bool.false_ne_true]

/-- Under each name stands what the last entry is reduced to, if there is one. -/
theorem at?_plainEntries (name : Wording) (entries : List (Value × Value))
    (done : List (Wording × Json)) :
    Json.at? name (plainEntries [] done entries) =
      ((last? name entries).map (plain [])).or (Json.at? name done) := by
  induction entries generalizing done with
  | nil => rfl
  | cons e rest ih =>
    rw [plainEntries_cons, ih, Json.at?_put, last?_cons, Option.map_or, Option.or_assoc]
    congr 1
    cases e.1.keyOf.same name <;> rfl

theorem apart_plainEntries (entries : List (Value × Value)) {done : List (Wording × Json)}
    (apart : Json.Apart done) : Json.Apart (plainEntries [] done entries) := by
  induction entries generalizing done with
  | nil => exact apart
  | cons e rest ih =>
    rw [plainEntries_cons]
    exact ih (apart.put _ _)

/-- Which names stand where depends on the texts of the keys only. -/
theorem names_plainEntries {entries others : List (Value × Value)}
    {done before : List (Wording × Json)} (texts : entries.map (·.1.keyOf) = others.map (·.1.keyOf))
    (names : done.map Prod.fst = before.map Prod.fst) :
    (plainEntries [] done entries).map Prod.fst =
      (plainEntries [] before others).map Prod.fst := by
  induction entries generalizing others done before with
  | nil =>
    obtain rfl : others = [] := List.map_eq_nil_iff.mp texts.symm
    exact names
  | cons e rest ih =>
    cases others with
    | nil => cases texts
    | cons f more =>
      obtain ⟨text, texts⟩ :
          e.1.keyOf = f.1.keyOf ∧ rest.map (·.1.keyOf) = more.map (·.1.keyOf) := by
        simpa using texts
      rw [plainEntries_cons, plainEntries_cons, text]
      exact ih texts (Json.put_names _ _ names)

/-- An entry more makes an object longer by one at most, and by one only under a new name. -/
theorem length_plainEntries (entries : List (Value × Value)) (done : List (Wording × Json)) :
    (plainEntries [] done entries).length ≤ done.length + entries.length ∧
      (done.length + entries.length ≤ (plainEntries [] done entries).length →
        KeysApart entries ∧ ∀ f ∈ done, ∀ e ∈ entries, f.1.same e.1.keyOf = false) := by
  induction entries generalizing done with
  | nil => exact ⟨Nat.le_refl _, fun _ => ⟨.nil, fun _ _ => List.forall_mem_nil _⟩⟩
  | cons e rest ih =>
    rw [plainEntries_cons, List.length_cons]
    by_cases standing : ∃ f ∈ done, f.1.same e.1.keyOf = true
    · have kept : (Json.put e.1.keyOf (e.2.plain []) done).length = done.length := by
        simpa using congrArg List.length (Json.put_standing (e.2.plain []) standing)
      obtain ⟨le, -⟩ := ih (Json.put e.1.keyOf (e.2.plain []) done)
      rw [kept] at le
      exact ⟨by omega, fun ge => by omega⟩
    · have fresh : ∀ f ∈ done, f.1.same e.1.keyOf = false := by simpa using standing
      obtain ⟨le, tight⟩ := ih (Json.put e.1.keyOf (e.2.plain []) done)
      rw [put_fresh fresh] at le tight ⊢
      rw [List.length_append, List.length_singleton] at le tight
      refine ⟨by omega, fun ge => ?_⟩
      obtain ⟨apart, clear⟩ := tight (by omega)
      refine ⟨List.pairwise_cons.mpr ⟨fun other ho => ?_, apart⟩, fun f hf other ho => ?_⟩
      · exact clear (e.1.keyOf, e.2.plain []) (by simp) other ho
      · rcases List.mem_cons.mp ho with rfl | later
        · exact fresh f hf
        · exact clear f (List.mem_append_left _ hf) other later

theorem length_plainEntries_eq {entries : List (Value × Value)} :
    (plainEntries [] [] entries).length = entries.length ↔ KeysApart entries := by
  obtain ⟨-, tight⟩ := length_plainEntries entries []
  rw [List.length_nil, Nat.zero_add] at tight
  constructor
  · exact fun same => (tight (Nat.le_of_eq same.symm)).1
  · intro apart
    rw [plainEntries_apart [] apart (fun _ hf => by cases hf), keptEntries]
    simp

theorem last?_eq_none {name : Wording} {entries : List (Value × Value)}
    (absent : ∀ e ∈ entries, e.1.keyOf.same name = false) : last? name entries = Option.none := by
  rw [last?, Option.map_eq_none_iff, List.find?_eq_none]
  intro e he
  rw [absent e (List.mem_reverse.mp he)]
  exact Bool.false_ne_true

theorem last?_isSome {name : Wording} {entries : List (Value × Value)}
    (standing : ∃ e ∈ entries, e.1.keyOf.same name = true) :
    (last? name entries).isSome = true := by
  rw [last?, Option.isSome_map, List.find?_isSome]
  obtain ⟨e, he, same⟩ := standing
  exact ⟨e, List.mem_reverse.mpr he, same⟩

theorem KeysApart.last? {entries : List (Value × Value)} (apart : KeysApart entries)
    {e : Value × Value} (he : e ∈ entries) : last? e.1.keyOf entries = some e.2 := by
  obtain ⟨before, after, rfl⟩ := List.append_of_mem he
  have later : ∀ f ∈ after, f.1.keyOf.same e.1.keyOf = false := by
    intro f hf
    rw [Wording.same_comm]
    exact (List.pairwise_cons.mp (List.pairwise_append.mp apart).2.1).1 f hf
  rw [last?_append, last?_cons, last?_eq_none later, Wording.same_refl]
  rfl

/-! ## What can be reduced -/

/-- What keeps a value from being reduced whatever its parts are: members of a set that cannot be
put in order, a key that cannot be written, settings that cannot be read. -/
def Obstructed : Value → Prop
  | .set items | .frozenset items => (orderObstacle? (plainAll [] items)).isSome = true
  | .dict entries => ∃ e ∈ entries, e.1.keyObstacle?.isSome = true
  | .settings s => s.unreadable?.isSome = true
  | _ => False

theorem obstacle?_kept {entries : List (Value × Value)}
    (h : (dict entries).obstacle? [] = Option.none) :
    ∀ x ∈ (dict entries).parts [], x.obstacle? [] = Option.none := by
  intro x hx
  obtain ⟨e, he, -, rfl⟩ := mem_kept.mp hx
  exact (entryObstacle?_eq_none.mp h).2 e he

/-- What can be reduced is not obstructed itself, and its parts can be reduced. -/
theorem obstacle?_parts {v : Value} (h : v.obstacle? [] = Option.none) :
    ¬ v.Obstructed ∧ ∀ x ∈ v.parts [], x.obstacle? [] = Option.none := by
  cases v with
  | list items | tuple items => exact ⟨id, firstObstacle?_eq_none.mp h⟩
  | set items | frozenset items =>
    obtain ⟨each, order⟩ := Option.or_eq_none_iff.mp h
    refine ⟨?_, firstObstacle?_eq_none.mp each⟩
    rw [Obstructed, order]
    exact Bool.false_ne_true
  | dict entries =>
    refine ⟨?_, obstacle?_kept h⟩
    rintro ⟨e, he, key⟩
    rw [(entryObstacle?_eq_none.mp h).1 e he] at key
    cases key
  | settings s =>
    refine ⟨?_, List.forall_mem_nil _⟩
    rw [Obstructed, Option.map_eq_none_iff.mp h]
    exact Bool.false_ne_true
  | handle _ | success _ | failure _ | response _ | assertion _ | summary _ _ _ | generator _
  | session _ | server _ | environment _ =>
    rw [← obstacle?_primitive] at h
    rw [← parts_primitive]
    exact ⟨id, obstacle?_kept h⟩
  | _ => exact ⟨id, List.forall_mem_nil _⟩

theorem obstacle?_within {v x : Value} (h : v.obstacle? [] = Option.none)
    (within : Within [] v x) : x.obstacle? [] = Option.none := by
  induction within with
  | refl => exact h
  | tail _ part ih => exact (obstacle?_parts ih).2 _ part

/-- Nothing in a value is obstructed, at any depth. -/
def Clear (v : Value) : Prop := ∀ x, Within [] v x → ¬ x.Obstructed

theorem Clear.part {v x : Value} (h : v.Clear) (part : x ∈ v.parts []) : x.Clear :=
  fun y within => h y (within.head part)

/-- A record is reduced only if its fields are. -/
theorem Clear.field {v x : Value} {fields : List (String × Value)} (h : v.Clear)
    (record : v.primitive = .ofFields fields) (name : String) (field : (name, x) ∈ fields) :
    x.Clear := by
  refine h.part ?_
  rw [← parts_primitive, record]
  exact mem_kept.mpr ⟨_, List.mem_map_of_mem field, rfl, rfl⟩

theorem Clear.order {v : Value} {items : List Value} (h : v.Clear) (isSet : v.IsSetOf items) :
    orderObstacle? (plainAll [] items) = Option.none := by
  rcases isSet with rfl | rfl <;> simpa [Obstructed] using h _ .refl

-- A part need not be a piece of its value (the headers of a response are none), so the proof goes
-- along the recursion of the reduction and not from a value to its parts.
mutual

theorem Clear.obstacle (v : Value) (h : v.Clear) : v.obstacle? [] = Option.none := by
  cases v with
  | list items => exact Clear.items items fun x hx => h.part hx
  | tuple items => exact Clear.items items fun x hx => h.part hx
  | set items =>
    rw [obstacle?, h.order (.inl rfl), Clear.items items fun x hx => h.part hx]
    rfl
  | frozenset items =>
    rw [obstacle?, h.order (.inr rfl), Clear.items items fun x hx => h.part hx]
    rfl
  | dict entries =>
    refine entryObstacle?_eq_none.mpr ⟨?_, Clear.entries entries fun e he => h.part ?_⟩
    · simpa [Obstructed] using h _ .refl
    · exact mem_kept.mpr ⟨e, he, rfl, rfl⟩
  | settings s =>
    have read : s.unreadable? = Option.none := by simpa [Obstructed] using h _ .refl
    rw [obstacle?, read]
    rfl
  | success v => exact Clear.obstacle v (h.part (List.mem_singleton_self _))
  | failure v => exact Clear.obstacle v (h.part (List.mem_singleton_self _))
  | generator v => exact Clear.obstacle v (h.part (List.mem_singleton_self _))
  | response r =>
    obtain ⟨status, body, headers, url⟩ := r
    change (status.obstacle? []).or (url.obstacle? []) = Option.none
    rw [Clear.obstacle status (h.field rfl "status_code" (by simp)),
      Clear.obstacle url (h.field rfl "url" (by simp))]
    rfl
  | summary successes failures failed =>
    have items : (tuple failed).Clear := h.field rfl "failures" (by simp)
    change (successes.obstacle? []).or
      ((failures.obstacle? []).or (firstObstacle? [] failed)) = Option.none
    rw [Clear.obstacle successes (h.field rfl "num_successes" (by simp)),
      Clear.obstacle failures (h.field rfl "num_failures" (by simp)),
      Clear.items failed fun x hx => items.part hx]
    rfl
  | environment e =>
    obtain ⟨_, clientLocal, printLog, consoleOut, consoleQueue, consoleDefault, _, _, _, _, _, _,
      fileIn, _, _, _, _, context⟩ := e
    have log : (tuple (printLog.map fun (name, v) => .tuple [.ofString name, v])).Clear :=
      h.field rfl "print_log" (by simp [Environment.fields])
    have input : (tuple [.tuple consoleQueue, consoleDefault]).Clear :=
      h.field rfl "console_in" (by simp [Environment.fields])
    have queue : (tuple consoleQueue).Clear := input.part (.head _)
    have out : (tuple consoleOut).Clear :=
      h.field rfl "console_out" (by simp [Environment.fields])
    have files : (tuple fileIn).Clear := h.field rfl "file_in" (by simp [Environment.fields])
    have labels : (tuple context).Clear := h.field rfl "context" (by simp [Environment.fields])
    change (clientLocal.obstacle? []).or ((logObstacle? [] printLog).or
      ((firstObstacle? [] consoleOut).or
        (((firstObstacle? [] consoleQueue).or (consoleDefault.obstacle? [])).or
          ((firstObstacle? [] fileIn).or (firstObstacle? [] context))))) = Option.none
    rw [Clear.obstacle clientLocal (h.field rfl "client_local" (by simp [Environment.fields])),
      Clear.log printLog fun e he => (log.part (List.mem_map_of_mem he)).part (.tail _ (.head _)),
      Clear.items consoleOut fun x hx => out.part hx,
      Clear.items consoleQueue fun x hx => queue.part hx,
      Clear.obstacle consoleDefault (input.part (.tail _ (.head _))),
      Clear.items fileIn fun x hx => files.part hx,
      Clear.items context fun x hx => labels.part hx]
    rfl
  | _ => rfl

theorem Clear.items (items : List Value) (h : ∀ x ∈ items, x.Clear) :
    firstObstacle? [] items = Option.none := by
  cases items with
  | nil => rfl
  | cons x rest =>
    obtain ⟨first, later⟩ := List.forall_mem_cons.mp h
    rw [firstObstacle?, Clear.obstacle x first, Clear.items rest later]
    rfl

theorem Clear.log (log : List (String × Value)) (h : ∀ e ∈ log, e.2.Clear) :
    logObstacle? [] log = Option.none := by
  cases log with
  | nil => rfl
  | cons e rest =>
    obtain ⟨_, v⟩ := e
    obtain ⟨first, later⟩ := List.forall_mem_cons.mp h
    rw [logObstacle?, Clear.obstacle v first, Clear.log rest later]
    rfl

theorem Clear.entries (entries : List (Value × Value)) (h : ∀ e ∈ entries, e.2.Clear) :
    ∀ e ∈ entries, e.2.obstacle? [] = Option.none := by
  cases entries with
  | nil => exact List.forall_mem_nil _
  | cons e rest =>
    obtain ⟨_, v⟩ := e
    obtain ⟨first, later⟩ := List.forall_mem_cons.mp h
    exact List.forall_mem_cons.mpr ⟨Clear.obstacle v first, Clear.entries rest later⟩

end

theorem clear_iff {v : Value} : v.Clear ↔ v.obstacle? [] = Option.none :=
  ⟨Clear.obstacle v, fun h _ within => (obstacle?_parts (obstacle?_within h within)).1⟩

theorem Clear.canonicalize {v : Value} (h : v.Clear) : v.canonicalize [] = .ok (v.plain []) := by
  rw [Value.canonicalize, h.obstacle]

theorem Clear.within {v x : Value} (h : v.Clear) (within : Within [] v x) : x.Clear :=
  fun y inner => h y (within.trans inner)

/-- What a dict is reduced to. -/
structure Collects (entries : List (Value × Value)) (fields : List (Wording × Json)) : Prop where
  apart : Json.Apart fields
  /-- Under a name stands what the last entry is reduced to whose key has that text. -/
  found : ∀ name j, Json.at? name fields = some j ↔
    ∃ x, last? name entries = some x ∧ x.canonicalize [] = .ok j
  /-- Entries are lost exactly if two keys have one text. -/
  count : fields.length ≤ entries.length ∧ (fields.length = entries.length ↔ KeysApart entries)
  /-- Otherwise each is found under the text of its key. -/
  kept : KeysApart entries → ∀ e ∈ entries, ∃ j, e.2.canonicalize [] = .ok j ∧
    Json.at? e.1.keyOf fields = some j

theorem last?_mem {name : Wording} {entries : List (Value × Value)} {x : Value}
    (h : last? name entries = some x) : ∃ e ∈ entries, e.2 = x := by
  obtain ⟨e, he, rfl⟩ := Option.map_eq_some_iff.mp h
  exact ⟨e, List.mem_reverse.mp (List.mem_of_find?_eq_some he), rfl⟩

theorem Clear.collects {entries : List (Value × Value)} (h : (dict entries).Clear) :
    Collects entries (plainEntries [] [] entries) := by
  have inner : ∀ e ∈ entries, e.2.canonicalize [] = .ok (e.2.plain []) := fun e he =>
    (h.part (mem_kept.mpr ⟨e, he, rfl, rfl⟩)).canonicalize
  have under (name : Wording) : Json.at? name (plainEntries [] [] entries) =
      (last? name entries).map (plain []) := by
    rw [at?_plainEntries]
    exact Option.or_none
  refine ⟨apart_plainEntries entries .nil, fun name j => ?_, ⟨?_, length_plainEntries_eq⟩, ?_⟩
  · rw [under, Option.map_eq_some_iff]
    refine exists_congr fun x => and_congr_right fun last => ?_
    obtain ⟨e, he, rfl⟩ := last?_mem last
    rw [inner e he, Except.ok.injEq]
  · simpa using (length_plainEntries entries []).1
  · intro apart e he
    refine ⟨_, inner e he, ?_⟩
    rw [under, apart.last? he]
    rfl

end Value

/-! ## Depth -/

namespace Json

/-- The items of an array and what stands in an object. -/
def parts : Json → List Json
  | .array items => items
  | .object fields => fields.map Prod.snd
  | _ => []

/-- The plain value itself, its parts, their parts and so on. -/
def Within : Json → Json → Prop := Relation.ReflTransGen fun j i => i ∈ j.parts

end Json

namespace Value

theorem keysApart_primitive {v : Value} (h : ∀ entries, v = .dict entries → KeysApart entries) :
    ∀ entries, v.primitive = .dict entries → KeysApart entries := by
  intro entries same
  cases v with
  | dict own => exact h entries same
  | handle _ | success _ | failure _ | response _ | assertion _ | summary _ _ _ | generator _
  | session _ =>
    cases same
    exact keysApart_ofFields (by simp)
  | server _ =>
    cases same
    exact keysApart_ofFields (by simp [handlers])
  | environment e =>
    cases same
    exact keysApart_ofFields e.nodup_fields
  | _ => cases same

/-- What a part is reduced to is a part of what the whole is reduced to. -/
theorem plain_parts {v x : Value} (apart : ∀ entries, v = .dict entries → KeysApart entries)
    (part : x ∈ v.parts []) : x.plain [] ∈ (v.plain []).parts := by
  have apart := keysApart_primitive apart
  rw [← plain_primitive]
  unfold parts at part
  cases same : v.primitive with
  | list items | tuple items =>
    rw [same] at part
    rw [plain, plainAll_eq]
    exact List.mem_map_of_mem part
  | set items | frozenset items =>
    rw [same] at part
    rw [plain, plainAll_eq, Json.parts, Json.sortByText, List.mem_mergeSort]
    exact List.mem_map_of_mem part
  | dict entries =>
    rw [same] at part
    obtain ⟨e, he, -, rfl⟩ := mem_kept.mp part
    rw [plain_dict_apart [] (apart entries same), Json.parts, keptEntries, List.map_map]
    exact List.mem_map.mpr ⟨e, List.mem_filter.mpr ⟨he, rfl⟩, rfl⟩
  | _ =>
    rw [same] at part
    cases part

/-- No dict has two keys of one text, at any depth. -/
def AllApart (v : Value) : Prop := ∀ entries, Within [] v (.dict entries) → KeysApart entries

theorem allApart_iff {v : Value} :
    v.AllApart ↔
      (∀ entries, v = .dict entries → KeysApart entries) ∧ ∀ x ∈ v.parts [], x.AllApart := by
  constructor
  · intro h
    exact ⟨fun entries same => h entries (same ▸ .refl),
      fun x part entries within => h entries (within.head part)⟩
  · rintro ⟨own, each⟩ entries within
    obtain same | ⟨x, part, rest⟩ := within.cases_head
    · exact own entries same
    · exact each x part entries rest

theorem AllApart.within {v x : Value} (apart : v.AllApart) (within : Within [] v x) :
    (v.plain []).Within (x.plain []) := by
  induction within with
  | refl => exact .refl
  | @tail u x before part ih =>
    exact ih.tail (plain_parts (fun entries same => apart entries (same ▸ before)) part)

/-! ## The value of one key -/

section OneKey

variable {before after : List (Value × Value)} {k x y : Value}

theorem last?_around (name : Wording) :
    last? name (before ++ (k, x) :: after) = (last? name after).or
      ((if k.keyOf.same name then some x else Option.none).or (last? name before)) := by
  rw [last?_append, last?_cons, Option.or_assoc]

/-- Dicts that differ in the value of one key are reduced to the same exactly if the two values are
or a later key has the same text. -/
theorem plain_dict_eq_iff :
    (dict (before ++ (k, x) :: after)).plain [] = (dict (before ++ (k, y) :: after)).plain [] ↔
      x.plain [] = y.plain [] ∨ ∃ e ∈ after, e.1.keyOf.same k.keyOf = true := by
  rw [plain, plain, Json.object.injEq]
  constructor
  · intro same
    by_cases later : ∃ e ∈ after, e.1.keyOf.same k.keyOf = true
    · exact .inr later
    · have absent : ∀ e ∈ after, e.1.keyOf.same k.keyOf = false := by simpa using later
      have under := congrArg (Json.at? k.keyOf) same
      rw [at?_plainEntries, at?_plainEntries, last?_around, last?_around, last?_eq_none absent,
        Wording.same_refl] at under
      exact .inl (Option.some.inj under)
  · intro either
    refine Json.eq_of_at? (names_plainEntries (by simp) rfl) (apart_plainEntries _ .nil) ?_
    intro name
    rw [at?_plainEntries, at?_plainEntries, last?_around, last?_around]
    congr 1
    cases here : k.keyOf.same name with
    | false => rfl
    | true =>
      cases last : last? name after with
      | some w => rfl
      | none =>
        rcases either with same | ⟨e, he, later⟩
        · exact congrArg some same
        · have standing : (last? name after).isSome = true := by
            refine last?_isSome ⟨e, he, ?_⟩
            rw [Wording.same_congr later, here]
          rw [last] at standing
          cases standing

/-- Environments that keep values with one plain form have one fingerprint. -/
theorem fingerprint_of_plain {v w : Value} (hv : v.Clear) (hw : w.Clear)
    (same : v.plain [] = w.plain []) (e : Environment) :
    ({ e with clientLocal := v } : Environment).fingerprint =
      ({ e with clientLocal := w } : Environment).fingerprint := by
  have like : v.PrintsLike w := by
    refine ⟨hv.obstacle.trans hw.obstacle.symm, ?_⟩
    rw [same]
    exact .refl _
  have snapshots := ({ e with clientLocal := v } : Environment).snapshot_printsLike like
  rw [Environment.fingerprint, Environment.fingerprint, canonicalHash, canonicalHash,
    canonicalBytes, canonicalBytes, snapshots.canonicalText]

/-- Two values of one key of a dict. -/
structure ToldApart (before : List (Value × Value)) (k x y : Value)
    (after : List (Value × Value)) : Prop where
  /-- They make a difference unless they are the same reduced or a later key has the same text. -/
  reduced : (dict (before ++ (k, x) :: after)).canonicalize [] =
      (dict (before ++ (k, y) :: after)).canonicalize [] ↔
    x.canonicalize [] = y.canonicalize [] ∨ ∃ e ∈ after, e.1.keyOf.same k.keyOf = true
  /-- If a later key has, environments with the two dicts are not told apart. -/
  fingerprint : (∃ e ∈ after, e.1.keyOf.same k.keyOf = true) → ∀ e : Environment,
    ({ e with clientLocal := dict (before ++ (k, x) :: after) } : Environment).fingerprint =
      ({ e with clientLocal := dict (before ++ (k, y) :: after) } : Environment).fingerprint

theorem toldApart (first : (dict (before ++ (k, x) :: after)).Clear)
    (second : (dict (before ++ (k, y) :: after)).Clear) : ToldApart before k x y after where
  reduced := by
    have hx : x.Clear := first.part (mem_kept.mpr ⟨(k, x), by simp, rfl, rfl⟩)
    have hy : y.Clear := second.part (mem_kept.mpr ⟨(k, y), by simp, rfl, rfl⟩)
    rw [first.canonicalize, second.canonicalize, hx.canonicalize, hy.canonicalize,
      Except.ok.injEq, Except.ok.injEq, plain_dict_eq_iff]
  fingerprint later := fingerprint_of_plain first second (plain_dict_eq_iff.mpr (.inr later))

end OneKey

/-- A value is reduced unless something in it is obstructed. Then each dict in it, at any depth, is
reduced to an object in which every name stands for the last entry whose key has that text: to one
with as many entries if no two keys have one text, and else to one with fewer. If no dict has two
such keys, what each part is reduced to is found in what the whole is reduced to. Dicts that differ
in the value of one key are told apart as long as no later key has the same text. -/
theorem canonicalize_entries (v : Value) :
    ((∃ j, v.canonicalize [] = .ok j) ↔ v.Clear) ∧
      (v.Clear → ∀ entries, Within [] v (.dict entries) → ∃ fields,
        (dict entries).canonicalize [] = .ok (.object fields) ∧ Collects entries fields) ∧
      (v.Clear → v.AllApart → ∀ x, Within [] v x → ∃ j i,
        v.canonicalize [] = .ok j ∧ x.canonicalize [] = .ok i ∧ j.Within i) ∧
      ∀ before k x y after, (dict (before ++ (k, x) :: after)).Clear →
        (dict (before ++ (k, y) :: after)).Clear → ToldApart before k x y after := by
  refine ⟨⟨?_, fun clear => ⟨_, clear.canonicalize⟩⟩, ?_, ?_, fun _ _ _ _ _ => toldApart⟩
  · rintro ⟨j, reduced⟩
    rw [clear_iff]
    cases obstacle : v.obstacle? [] with
    | none => rfl
    | some e =>
      rw [canonicalize, obstacle] at reduced
      cases reduced
  · intro clear entries within
    have inner := clear.within within
    refine ⟨_, ?_, inner.collects⟩
    rw [inner.canonicalize, plain]
  · intro clear apart x within
    exact ⟨_, _, clear.canonicalize, (clear.within within).canonicalize, apart.within within⟩

theorem clear_of_isNone {v : Value} (h : (v.obstacle? []).isNone = true) : v.Clear :=
  clear_iff.mpr (Option.isNone_iff_eq_none.mp h)

/-- The number one and the text of its digit as keys. -/
def sharing (first : Value) : Value := .dict [(.int 1, first), ("1", "b")]

/-- One of the two entries is lost, and with it the difference between two environments. -/
theorem sharing_loses_entry :
    (sharing "a").canonicalize [] = .ok (.object [("1", .text "b")]) ∧
      (sharing "c").canonicalize [] = .ok (.object [("1", .text "b")]) ∧
      (Value.text "c").canonicalize [] ≠ (Value.text "a").canonicalize [] ∧
      (Environment.start Option.none (sharing "c")).fingerprint =
        (Environment.start Option.none (sharing "a")).fingerprint := by
  have first : (sharing "a").Clear := clear_of_isNone (by decide +kernel)
  have second : (sharing "c").Clear := clear_of_isNone (by decide +kernel)
  have same : (sharing "c").plain [] = (sharing "a").plain [] := rfl
  have other : Wording.plain "c" ≠ .plain "a" := by decide
  refine ⟨first.canonicalize, second.canonicalize, ?_, fingerprint_of_plain second first same _⟩
  exact fun h => other (Json.text.inj (Except.ok.inj h))

/-- Keys of three kinds, and a dict in a list under one of them. -/
def numbered (first : Value) : Value :=
  .dict [(.int 1, first), (.tuple [], .list [.dict [("1", .int 2)]]), (.none, .bytes [])]

theorem numbered_entries :
    (numbered (.int 0)).Clear ∧ (numbered (.int 0)).AllApart ∧
      (∃ fields, (numbered (.int 0)).canonicalize [] = .ok (.object fields) ∧ fields.length = 3 ∧
        Json.at? "1" fields = some (.int 0)) ∧
      (∃ j i, (numbered (.int 0)).canonicalize [] = .ok j ∧
        (Value.dict [("1", .int 2)]).canonicalize [] = .ok i ∧ j.Within i) ∧
      (numbered (.int 0)).canonicalize [] ≠ (numbered (.int 5)).canonicalize [] := by
  have clear : (numbered (.int 0)).Clear := clear_of_isNone (by decide +kernel)
  have other : (numbered (.int 5)).Clear := clear_of_isNone (by decide +kernel)
  have keys : KeysApart [(.int 1, .int 0), (.tuple [], .list [.dict [("1", .int 2)]]),
      (.none, .bytes [])] := by
    unfold KeysApart
    decide +kernel
  have leaf {v : Value} (noDict : ∀ entries, v ≠ .dict entries) (noParts : v.parts [] = []) :
      v.AllApart := by
    refine allApart_iff.mpr ⟨fun entries same => absurd same (noDict entries), ?_⟩
    rw [noParts]
    exact List.forall_mem_nil _
  have inner : (Value.dict [("1", .int 2)]).AllApart := by
    refine allApart_iff.mpr ⟨fun entries same => ?_, List.forall_mem_singleton.mpr (leaf nofun rfl)⟩
    cases same
    exact List.pairwise_singleton _ _
  have apart : (numbered (.int 0)).AllApart := by
    refine allApart_iff.mpr ⟨fun entries same => ?_, ?_⟩
    · cases same
      exact keys
    · change ∀ x ∈ [Value.int 0, .list [.dict [("1", .int 2)]], .bytes []], x.AllApart
      simp only [List.forall_mem_cons]
      exact ⟨leaf nofun rfl, allApart_iff.mpr ⟨nofun, List.forall_mem_singleton.mpr inner⟩,
        leaf nofun rfl, List.forall_mem_nil _⟩
  have item : Within [] (numbered (.int 0)) (.dict [("1", .int 2)]) :=
    .head (.tail _ (.head _)) (.single (.head _))
  obtain ⟨-, dicts, depth, differ⟩ := canonicalize_entries (numbered (.int 0))
  obtain ⟨fields, reduced, collects⟩ := dicts clear _ .refl
  obtain ⟨j, found, standing⟩ := collects.kept keys _ (.head _)
  refine ⟨clear, apart, ⟨fields, reduced, collects.count.2.mpr keys, ?_⟩,
    depth clear apart _ item, fun same => ?_⟩
  · cases found
    exact standing
  · have told := differ [] (.int 1) (.int 0) (.int 5) _ clear other
    obtain values | ⟨e, he, later⟩ := told.reduced.mp same
    · cases values
    · rw [Wording.same_comm, (List.pairwise_cons.mp keys).1 e he] at later
      cases later

end Value

end Rehearsal
