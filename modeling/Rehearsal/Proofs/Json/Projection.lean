import Rehearsal.Proofs.Json.Parts

/-!
# Reduction is a projection

Reducing plain data gives reduced data, which is left as it is when it is reduced again. Names may
be dropped while reducing or afterwards, unless there are sets: their members are sorted by texts
that have the dropped names no more. What keeps plain data from being reduced is a member of a set
with an integer that is too long to be written.
-/

namespace Rehearsal

namespace Value

/-! ## The one obstacle -/

/-- There is an obstacle exactly if `p` holds, and it is an integer that is too long. -/
def Blocks (p : Prop) (o : Option Error) : Prop :=
  p ∧ o = some (.rejected .longNumber) ∨ ¬ p ∧ o = Option.none

theorem Blocks.or {p q : Prop} {o other : Option Error} (h : Blocks p o) (h' : Blocks q other) :
    Blocks (p ∨ q) (o.or other) := by
  rcases h with ⟨hp, rfl⟩ | ⟨hp, rfl⟩
  · exact .inl ⟨.inl hp, rfl⟩
  · rcases h' with ⟨hq, rfl⟩ | ⟨hq, rfl⟩
    · exact .inl ⟨.inr hq, rfl⟩
    · exact .inr ⟨not_or.mpr ⟨hp, hq⟩, rfl⟩

theorem blocks_items {drop : List Wording} {items : List Value} {p : Value → Prop}
    (each : ∀ x ∈ items, Blocks (p x) (x.obstacle? drop)) :
    Blocks (∃ x ∈ items, p x) (firstObstacle? drop items) := by
  induction items with
  | nil => exact .inr ⟨by simp, rfl⟩
  | cons item rest ih =>
    obtain ⟨first, later⟩ := List.forall_mem_cons.mp each
    rw [firstObstacle?, List.exists_mem_cons_iff]
    exact first.or (ih later)

theorem blocks_order (drop : List Wording) (items : List Value) :
    Blocks (∃ m ∈ items, (m.plain drop).holdsLong = true)
      (orderObstacle? (plainAll drop items)) := by
  have long : Json.anyHoldsLong (plainAll drop items) = true ↔
      ∃ m ∈ items, (m.plain drop).holdsLong = true := by
    rw [Json.anyHoldsLong_eq, plainAll_eq, List.any_map, List.any_eq_true]
    rfl
  rw [orderObstacle?, ← long]
  split
  · next holds => exact .inl ⟨holds, rfl⟩
  · next holds => exact .inr ⟨holds, rfl⟩

/-- The obstacles of the members of a set come before those of their order. -/
theorem blocks_set {drop : List Wording} {v : Value} {items : List Value}
    (isSet : v.IsSetOf items) (parts : v.parts drop = items)
    (each : ∀ x ∈ items, Blocks (x.HasLongMember drop) (x.obstacle? drop)) :
    Blocks (v.HasLongMember drop)
      ((firstObstacle? drop items).or (orderObstacle? (plainAll drop items))) := by
  have only : (∃ members, v.IsSetOf members ∧ ∃ m ∈ members, (m.plain drop).holdsLong = true) ↔
      ∃ m ∈ items, (m.plain drop).holdsLong = true := by
    constructor
    · rintro ⟨members, other, long⟩
      have same : members = items := by
        rcases isSet with rfl | rfl <;> rcases other with other | other <;> cases other <;> rfl
      rwa [same] at long
    · exact fun long => ⟨items, isSet, long⟩
  rw [hasLongMember_iff, only, parts, or_comm]
  exact (blocks_items each).or (blocks_order drop items)

/-- What is no set is kept from having a plain form by its parts only. -/
theorem blocks_parts {drop : List Wording} {v : Value} {items : List Value}
    (noSet : ∀ members, ¬ v.IsSetOf members) (parts : v.parts drop = items)
    (each : ∀ x ∈ items, Blocks (x.HasLongMember drop) (x.obstacle? drop)) :
    Blocks (v.HasLongMember drop) (firstObstacle? drop items) := by
  have none : ¬ ∃ members, v.IsSetOf members ∧ ∃ m ∈ members, (m.plain drop).holdsLong = true :=
    fun ⟨members, isSet, _⟩ => noSet members isSet
  rw [hasLongMember_iff, parts, or_iff_right none]
  exact blocks_items each

theorem Built.blocks {v : Value} (h : v.Built) (drop : List Wording) :
    Blocks (v.HasLongMember drop) (v.obstacle? drop) := by
  induction h with
  | leaf leaf =>
    rw [leaf.obstacle]
    exact blocks_parts leaf.noSet (leaf.parts drop) (List.forall_mem_nil _)
  | list each ih | tuple each ih => exact blocks_parts (by simp [IsSetOf]) rfl ih
  | set each ih => exact blocks_set (.inl rfl) rfl ih
  | frozenset each ih => exact blocks_set (.inr rfl) rfl ih
  | dict keys apart each ih =>
    rw [obstacle?, entryObstacle?_kept drop keys]
    refine blocks_parts (by simp [IsSetOf]) rfl fun x hx => ?_
    obtain ⟨e, he, _, rfl⟩ := mem_kept.mp hx
    exact ih e he
  | record inner ih =>
    rwa [obstacle?_primitive, hasLongMember_primitive] at ih

/-! ## Reduced forms -/

theorem reduced_items {drop : List Wording} {items : List Value}
    (each : ∀ x ∈ items, (x.plain drop).Reduced drop) :
    ∀ item ∈ plainAll drop items, item.Reduced drop := by
  intro item hi
  rw [plainAll_eq] at hi
  obtain ⟨x, hx, rfl⟩ := List.mem_map.mp hi
  exact each x hx

theorem Built.reduced {v : Value} (h : v.Built) (drop : List Wording) :
    (v.plain drop).Reduced drop := by
  induction h with
  | leaf leaf =>
    rw [leaf.plain]
    exact leaf.reduced drop
  | list each ih | tuple each ih =>
    rw [plain]
    exact .array (reduced_items ih)
  | set each ih | frozenset each ih =>
    rw [plain]
    exact .array fun item hi => reduced_items ih item (List.mem_mergeSort.mp hi)
  | @dict entries keys apart each ih =>
    rw [plain_dict_apart drop apart, keptEntries]
    refine .object ?_ ?_ ?_
    · exact List.pairwise_map.mpr (apart.filter _)
    · intro e he
      obtain ⟨f, hf, rfl⟩ := List.mem_map.mp he
      simpa using (List.mem_filter.mp hf).2
    · intro e he
      obtain ⟨f, hf, rfl⟩ := List.mem_map.mp he
      exact ih f (List.mem_filter.mp hf).1
  | record inner ih => rwa [plain_primitive] at ih

/-! ## Dropping afterwards -/

theorem without_items {drop : List Wording} {items : List Value}
    (each : ∀ x ∈ items, x.plain drop = (x.plain []).without drop) :
    Json.array (plainAll drop items) = (Json.array (plainAll [] items)).without drop := by
  rw [Json.without, Json.withoutAll_eq, plainAll_eq, plainAll_eq, List.map_map]
  exact congrArg Json.array (List.map_congr_left each)

theorem Built.without {v : Value} (h : v.Built) (drop : List Wording) (free : v.SetFree) :
    v.plain drop = (v.plain []).without drop := by
  induction h with
  | leaf leaf => rw [leaf.plain, leaf.plain, leaf.whole]
  | list each ih | tuple each ih =>
    rw [plain, plain]
    exact without_items fun x hx => ih x hx (free.part hx)
  | set each ih => exact absurd (.inl rfl) (free _ _ .refl)
  | frozenset each ih => exact absurd (.inr rfl) (free _ _ .refl)
  | @dict entries keys apart each ih =>
    have inner : ∀ e ∈ entries, e.2.plain drop = (e.2.plain []).without drop :=
      fun e he => ih e he (free.part (mem_kept.mpr ⟨e, he, rfl, rfl⟩))
    have whole : keptEntries [] entries = entries.map fun e => (e.1.keyOf, e.2.plain []) := by
      simp only [keptEntries, Json.isDropped_nil, Bool.not_false, List.filter_true]
    rw [plain_dict_apart drop apart, plain_dict_apart [] apart, whole, Json.without,
      Json.withoutEntries_eq, List.filter_map, List.map_map]
    exact congrArg Json.object (List.map_congr_left fun e he =>
      Prod.ext rfl (inner e (List.mem_filter.mp he).1))
  | record inner ih =>
    rw [← plain_primitive, ← plain_primitive []]
    exact ih (setFree_primitive.mpr free)

/-- Reducing plain data, but for sets with a member that has an integer too long to be written, is
a projection onto reduced data: it gives data that has none of the dropped names and is left as it
is when it is reduced again. Without sets, the names may as well be dropped afterwards. -/
theorem canonicalize_projects (v : Value) (ordinary : v.Ordinary) (drop : List Wording) :
    (v.HasLongMember drop → v.canonicalize drop = .error (.rejected .longNumber)) ∧
      (¬ v.HasLongMember drop → ∃ j, v.canonicalize drop = .ok j ∧ j.Reduced drop ∧
        ∀ fewer, Json.Fewer fewer drop → (ofJson j).canonicalize fewer = .ok j) ∧
      (v.SetFree → ∃ j whole, v.canonicalize drop = .ok j ∧ v.canonicalize [] = .ok whole ∧
        j = whole.without drop) := by
  have built := ordinary.built
  have reducible (names : List Wording) (short : ¬ v.HasLongMember names) :
      v.canonicalize names = .ok (v.plain names) := by
    rcases built.blocks names with ⟨long, _⟩ | ⟨_, none⟩
    · exact absurd long short
    · rw [canonicalize, none]
  refine ⟨fun long => ?_, fun short => ?_, fun free => ?_⟩
  · rcases built.blocks drop with ⟨_, obstacle⟩ | ⟨short, _⟩
    · rw [canonicalize, obstacle]
    · exact absurd long short
  · have reduced := built.reduced drop
    exact ⟨_, reducible drop short, reduced, fun fewer among => canonicalize_ofJson among reduced⟩
  · exact ⟨_, _, reducible drop (free.noLongMember drop), reducible [] (free.noLongMember []),
      built.without drop free⟩

/-- The least positive integer that is too long to be written. -/
def overlong : Int := ((10 ^ Number.digitLimit : Nat) : Int)

theorem holdsLong_overlong (drop : List Wording) :
    ((Value.int overlong).plain drop).holdsLong = true := by
  rw [plain, Json.holdsLong]
  decide +kernel

theorem ordinary_overlong : (Value.set [.int overlong]).Ordinary :=
  .set (List.forall_mem_singleton.mpr (.int overlong))

/-- A result next to what is to be dropped. -/
def resultWith (secret : Value) : Value :=
  .dict [("result", .success (.nan [])), ("secret", secret)]

theorem ordinary_resultWith {secret : Value} (ordinary : secret.Ordinary) :
    (resultWith secret).Ordinary := by
  have distinct : [Wording.points "result", Wording.points "secret"].Nodup := by decide
  refine .dict ⟨?_, distinct⟩ ?_
  · simp only [List.map_cons, List.map_nil, List.forall_mem_cons]
    exact ⟨⟨_, rfl, Wording.genuine_plain "result"⟩, ⟨_, rfl, Wording.genuine_plain "secret"⟩,
      List.forall_mem_nil _⟩
  · simp only [List.forall_mem_cons]
    exact ⟨.success (.nan []), ordinary, List.forall_mem_nil _⟩

theorem setFree_resultWith {secret : Value} (free : secret.SetFree) :
    (resultWith secret).SetFree := by
  have number : (nan []).SetFree := setFree_iff.mpr ⟨by simp [IsSetOf], List.forall_mem_nil _⟩
  have result : (success (nan [])).SetFree :=
    setFree_iff.mpr ⟨by simp [IsSetOf], List.forall_mem_singleton.mpr number⟩
  refine setFree_iff.mpr ⟨by simp [IsSetOf, resultWith], ?_⟩
  show ∀ x ∈ [success (nan []), secret], x.SetFree
  simp only [List.forall_mem_cons]
  exact ⟨result, free, List.forall_mem_nil _⟩

theorem resultWith_projects :
    (resultWith (.set [.int overlong])).Ordinary ∧
      (resultWith (.set [.int overlong])).canonicalize [] = .error (.rejected .longNumber) ∧
      (∃ j, (resultWith (.set [.int overlong])).canonicalize ["secret"] = .ok j ∧
        j.Reduced ["secret"] ∧ (ofJson j).canonicalize ["secret"] = .ok j) ∧
      ∃ j whole, (resultWith (.int 7)).canonicalize ["secret"] = .ok j ∧
        (resultWith (.int 7)).canonicalize [] = .ok whole ∧ j = whole.without ["secret"] := by
  have ordinary := ordinary_resultWith ordinary_overlong
  have long : (resultWith (.set [.int overlong])).HasLongMember [] := by
    have part : Value.set [.int overlong] ∈ (resultWith (.set [.int overlong])).parts [] :=
      List.mem_cons_of_mem _ (List.mem_singleton_self _)
    exact ⟨_, _, .single part, .inl rfl, _, List.mem_singleton_self _, holdsLong_overlong []⟩
  have short : ¬ (resultWith (.set [.int overlong])).HasLongMember ["secret"] := by
    have reducible : (resultWith (.set [.int overlong])).obstacle? ["secret"] = Option.none := rfl
    rcases ordinary.built.blocks ["secret"] with ⟨_, blocked⟩ | ⟨short, _⟩
    · rw [reducible] at blocked
      cases blocked
    · exact short
  have free : (resultWith (.int 7)).SetFree :=
    setFree_resultWith (setFree_iff.mpr ⟨by simp [IsSetOf], List.forall_mem_nil _⟩)
  have all : Json.Fewer ["secret"] ["secret"] :=
    fun name among => Json.isDropped_iff.mpr ⟨name, among, rfl⟩
  obtain ⟨refused, _, _⟩ := canonicalize_projects _ ordinary []
  obtain ⟨_, dropped, _⟩ := canonicalize_projects _ ordinary ["secret"]
  obtain ⟨_, _, afterwards⟩ := canonicalize_projects _ (ordinary_resultWith (.int 7)) ["secret"]
  obtain ⟨j, reduces, reduced, again⟩ := dropped short
  exact ⟨ordinary, refused long, ⟨j, reduces, reduced, again _ all⟩, afterwards free⟩

/-- A set with an integer that is too long has no plain form. -/
theorem overlong_irreducible :
    (Value.set [.int overlong]).Ordinary ∧
      (Value.set [.int overlong]).canonicalize [] = .error (.rejected .longNumber) ∧
      ¬ ∃ j, (Value.set [.int overlong]).canonicalize [] = .ok j ∧ j.Reduced [] := by
  have refused : (Value.set [.int overlong]).canonicalize [] = .error (.rejected .longNumber) := by
    have long := holdsLong_overlong []
    have order : orderObstacle? (plainAll [] [.int overlong]) = some (.rejected .longNumber) := by
      rw [orderObstacle?, anyHoldsLong_plainAll, List.any_cons, long, Bool.true_or, if_pos rfl]
    rw [canonicalize, obstacle?, order]
    rfl
  refine ⟨ordinary_overlong, refused, ?_⟩
  rintro ⟨j, reduced, _⟩
  rw [refused] at reduced
  cases reduced

end Value

end Rehearsal
