import Rehearsal.Proofs.Json.Ordinary

/-!
# Canonical texts do not depend on an order

The entries of a dict and the members of a set have some order in memory, which is no part of the
value. A canonical text shows nothing of it: at every depth entries are sorted by their names and
members by their texts, and members with one text may stand in either order. So values that differ
in such orders have one canonical text, and environments that keep them have one fingerprint.
-/

namespace Rehearsal

mutual

/-- The second value is the first one with the entries of dicts and the members of sets in another
order, at any depth. -/
inductive Value.Reordered : Value → Value → Prop where
  | same (v : Value) : Reordered v v
  | list {xs ys : List Value} (each : List.Forall₂ Reordered xs ys) :
      Reordered (.list xs) (.list ys)
  | tuple {xs ys : List Value} (each : List.Forall₂ Reordered xs ys) :
      Reordered (.tuple xs) (.tuple ys)
  | set {xs mid ys : List Value} (perm : xs.Perm mid) (each : List.Forall₂ Reordered mid ys) :
      Reordered (.set xs) (.set ys)
  | frozenset {xs mid ys : List Value} (perm : xs.Perm mid)
      (each : List.Forall₂ Reordered mid ys) : Reordered (.frozenset xs) (.frozenset ys)
  | dict {es mid fs : List (Value × Value)} (perm : es.Perm mid)
      (each : List.Forall₂ EntryReordered mid fs) : Reordered (.dict es) (.dict fs)
  | success {v w : Value} (inner : Reordered v w) : Reordered (.success v) (.success w)
  | failure {v w : Value} (inner : Reordered v w) : Reordered (.failure v) (.failure w)
  | generator {v w : Value} (inner : Reordered v w) : Reordered (.generator v) (.generator w)
  | response {status status' url url' : Value} (body : Text.Bytes)
      (headers : List (String × String)) (first : Reordered status status')
      (second : Reordered url url') :
      Reordered (.response ⟨status, body, headers, url⟩) (.response ⟨status', body, headers, url'⟩)
  | summary {successes successes' failures failures' : Value} {xs ys : List Value}
      (first : Reordered successes successes') (second : Reordered failures failures')
      (each : List.Forall₂ Reordered xs ys) :
      Reordered (.summary successes failures xs) (.summary successes' failures' ys)

inductive Value.EntryReordered : Value × Value → Value × Value → Prop where
  | entry (key : Value) {v w : Value} (inner : Reordered v w) :
      EntryReordered (key, v) (key, w)

end

/-- Values with one canonical text, or with one reason why they have none. -/
structure Value.PrintsLike (v w : Value) : Prop where
  obstacle : v.obstacle? [] = w.obstacle? []
  plain : (v.plain []).Prints (w.plain [])

namespace Value

/-- Of obstacles of one kind the first one is the same in any order. -/
theorem findSome?_eq_of_perm (error : Error) {os ps : List (Option Error)} (perm : os.Perm ps)
    (only : ∀ o ∈ os, ∀ e, o = some e → e = error) : os.findSome? id = ps.findSome? id := by
  cases ho : os.findSome? id with
  | none =>
    rw [List.findSome?_eq_none_iff] at ho
    refine (List.findSome?_eq_none_iff.mpr fun p hp => ho p (perm.mem_iff.mpr hp)).symm
  | some e =>
    obtain ⟨o, mo, found⟩ := List.exists_of_findSome?_eq_some ho
    cases hp : ps.findSome? id with
    | none =>
      rw [List.findSome?_eq_none_iff] at hp
      rw [hp o (perm.mem_iff.mp mo)] at found
      cases found
    | some d =>
      obtain ⟨p, mp, other⟩ := List.exists_of_findSome?_eq_some hp
      rw [only o mo e found, only p (perm.mem_iff.mpr mp) d other]

namespace PrintsLike

theorem refl (v : Value) : v.PrintsLike v := ⟨rfl, .refl _⟩

theorem canonicalText {v w : Value} (h : v.PrintsLike w) : v.canonicalText = w.canonicalText := by
  rw [Value.canonicalText, Value.canonicalText, canonicalize, canonicalize, h.obstacle]
  cases w.obstacle? [] with
  | some e => rfl
  | none => simp only [bind, Except.bind, h.plain.long, h.plain.text]

theorem items {xs ys : List Value} (h : List.Forall₂ PrintsLike xs ys) :
    firstObstacle? [] xs = firstObstacle? [] ys ∧
      List.Forall₂ Json.Prints (plainAll [] xs) (plainAll [] ys) := by
  have obstacles : xs.map (obstacle? []) = ys.map (obstacle? []) :=
    map_eq_of_forall₂ (h.imp fun _ _ both => both.obstacle)
  rw [firstObstacle?_eq, firstObstacle?_eq, obstacles, plainAll_eq, plainAll_eq]
  exact ⟨rfl, forall₂_map (h.imp fun _ _ both => both.plain)⟩

theorem list {xs ys : List Value} (h : List.Forall₂ PrintsLike xs ys) :
    (Value.list xs).PrintsLike (.list ys) where
  obstacle := by rw [obstacle?, obstacle?, (items h).1]
  plain := .array (items h).2

theorem plainAll_of_perm {xs ys : List Value} (perm : xs.Perm ys) :
    (plainAll [] xs).Perm (plainAll [] ys) := by
  rw [plainAll_eq, plainAll_eq]
  exact perm.map _

/-- The members of a set may come in any order, each as any value that prints like it. -/
theorem set {xs mid ys : List Value} (perm : xs.Perm mid) (h : List.Forall₂ PrintsLike mid ys)
    (ordinary : ∀ x ∈ xs, x.Ordinary) : (Value.set xs).PrintsLike (.set ys) where
  obstacle := by
    have first : firstObstacle? [] xs = firstObstacle? [] mid := by
      rw [firstObstacle?_eq, firstObstacle?_eq]
      refine findSome?_eq_of_perm (.rejected .longNumber) (perm.map _) fun o ho e found => ?_
      obtain ⟨x, hx, rfl⟩ := List.mem_map.mp ho
      exact ((ordinary x hx).onlyLong e found).1
    have order : Json.anyHoldsLong (plainAll [] xs) = Json.anyHoldsLong (plainAll [] ys) := by
      rw [Json.anyHoldsLong_of_perm (plainAll_of_perm perm), (Json.Prints.items (items h).2).2]
    rw [obstacle?, obstacle?, first, (items h).1, orderObstacle?, orderObstacle?, order]
  plain := by
    have genuine : ∀ item ∈ plainAll [] xs, ∀ p ∈ item.write, p.Genuine :=
      genuine_items fun x hx => (ordinary x hx).genuine
    exact .sorted (plainAll_of_perm perm) (items h).2 genuine

/-- Entries with the same key whose values print alike. -/
def Entry (e f : Value × Value) : Prop := e.1 = f.1 ∧ e.2.PrintsLike f.2

theorem entries {es fs : List (Value × Value)} (h : List.Forall₂ Entry es fs) :
    es.map Prod.fst = fs.map Prod.fst ∧
      es.map (·.2.obstacle? []) = fs.map (·.2.obstacle? []) ∧
      List.Forall₂ Json.Prints.Entry (es.map fun (k, v) => (k.keyOf, v.plain []))
        (fs.map fun (k, v) => (k.keyOf, v.plain [])) :=
  ⟨map_eq_of_forall₂ (h.imp fun _ _ both => both.1),
    map_eq_of_forall₂ (h.imp fun _ _ both => both.2.obstacle),
    forall₂_map (h.imp fun _ _ both => ⟨congrArg keyOf both.1, both.2.plain⟩)⟩

/-- The entries of a dict may come in any order, each with any value that prints like its own. -/
theorem dict {es mid fs : List (Value × Value)} (perm : es.Perm mid)
    (h : List.Forall₂ Entry mid fs) (names : Names (es.map Prod.fst))
    (ordinary : ∀ e ∈ es, e.2.Ordinary) : (Value.dict es).PrintsLike (.dict fs) := by
  obtain ⟨keys, obstacles, plain⟩ := entries h
  have others : Names (fs.map Prod.fst) := keys ▸ names.of_perm (perm.map _)
  constructor
  · rw [obstacle?, obstacle?, entryObstacle?_eq names.genuine, entryObstacle?_eq others.genuine,
      ← obstacles]
    refine findSome?_eq_of_perm (.rejected .longNumber) (perm.map _) fun o ho e found => ?_
    obtain ⟨entry, he, rfl⟩ := List.mem_map.mp ho
    exact ((ordinary entry he).onlyLong e found).1
  · rw [names.plain_dict, others.plain_dict]
    refine .reordered (perm.map _) plain ?_ ?_
    · intro e he
      obtain ⟨entry, hf, rfl⟩ := List.mem_map.mp he
      exact (names.genuine entry.1 (List.mem_map_of_mem hf)).keyOf
    · have distinct := names.distinct
      rw [List.map_map] at distinct ⊢
      exact distinct

theorem success {v w : Value} (h : v.PrintsLike w) :
    (Value.success v).PrintsLike (.success w) :=
  ⟨h.obstacle, .fields (.cons ⟨rfl, h.plain⟩ .nil)⟩

theorem failure {v w : Value} (h : v.PrintsLike w) :
    (Value.failure v).PrintsLike (.failure w) :=
  ⟨h.obstacle, .fields (.cons ⟨rfl, h.plain⟩ .nil)⟩

theorem generator {v w : Value} (h : v.PrintsLike w) :
    (Value.generator v).PrintsLike (.generator w) :=
  ⟨h.obstacle, .fields (.cons ⟨rfl, h.plain⟩ .nil)⟩

theorem response {status status' url url' : Value} (body : Text.Bytes)
    (headers : List (String × String)) (first : status.PrintsLike status')
    (second : url.PrintsLike url') :
    (Value.response ⟨status, body, headers, url⟩).PrintsLike
      (.response ⟨status', body, headers, url'⟩) where
  obstacle := by
    show (status.obstacle? []).or (url.obstacle? []) = (status'.obstacle? []).or (url'.obstacle? [])
    rw [first.obstacle, second.obstacle]
  plain := by
    rw [plain_response, plain_response]
    exact .fields (.cons ⟨rfl, first.plain⟩ (.cons ⟨rfl, .refl _⟩ (.cons ⟨rfl, .refl _⟩
      (.cons ⟨rfl, second.plain⟩ .nil))))

theorem summary {successes successes' failures failures' : Value} {xs ys : List Value}
    (first : successes.PrintsLike successes') (second : failures.PrintsLike failures')
    (h : List.Forall₂ PrintsLike xs ys) :
    (Value.summary successes failures xs).PrintsLike (.summary successes' failures' ys) where
  obstacle := by
    have failed : firstObstacle? [] xs = firstObstacle? [] ys := (list h).obstacle
    show (successes.obstacle? []).or ((failures.obstacle? []).or (firstObstacle? [] xs)) =
      (successes'.obstacle? []).or ((failures'.obstacle? []).or (firstObstacle? [] ys))
    rw [first.obstacle, second.obstacle, failed]
  plain := by
    rw [plain_summary, plain_summary]
    exact .fields (.cons ⟨rfl, first.plain⟩ (.cons ⟨rfl, second.plain⟩
      (.cons ⟨rfl, .array (items h).2⟩ .nil)))

/-- Dicts with the same distinct texts as keys. -/
theorem fields {fs gs : List (String × Value)}
    (h : List.Forall₂ (fun f g => f.1 = g.1 ∧ f.2.PrintsLike g.2) fs gs)
    (distinct : (fs.map Prod.fst).Nodup) : (ofFields fs).PrintsLike (ofFields gs) := by
  have names : fs.map Prod.fst = gs.map Prod.fst :=
    map_eq_of_forall₂ (h.imp fun _ _ both => both.1)
  have obstacles : fs.map (·.2.obstacle? []) = gs.map (·.2.obstacle? []) :=
    map_eq_of_forall₂ (h.imp fun _ _ both => both.2.obstacle)
  have shown (fields : List (String × Value)) :
      (ofFields fields).obstacle? [] = (fields.map (·.2.obstacle? [])).findSome? id := by
    rw [ofFields, obstacle?, entryObstacle?_eq, List.map_map]
    · rfl
    · intro k hk
      rw [List.map_map] at hk
      obtain ⟨f, _, rfl⟩ := List.mem_map.mp hk
      exact ⟨.plain f.1, rfl, Wording.genuine_plain f.1⟩
  constructor
  · rw [shown, shown, obstacles]
  · rw [plain_ofFields distinct, plain_ofFields (names ▸ distinct)]
    exact .fields (forall₂_map (h.imp fun _ _ both => ⟨both.1, both.2.plain⟩))

end PrintsLike

/-- What holds of related items of which the first ones are given. -/
theorem forall₂_of_mem {α β : Type} {R S : α → β → Prop} {as : List α} {bs : List β}
    (h : List.Forall₂ R as bs) (each : ∀ a ∈ as, ∀ b, R a b → S a b) : List.Forall₂ S as bs :=
  ((List.forall₂_and_left as bs).mpr ⟨each, h⟩).imp fun _ b both => both.1 b both.2

/-- By induction on the plain data: what may come in another order is sorted, and what is sorted has
been reduced to the same texts before. -/
theorem Ordinary.printsLike {v : Value} (h : v.Ordinary) :
    ∀ w, v.Reordered w → v.PrintsLike w := by
  induction h with
  | list each ih =>
    intro w related
    cases related with
    | same => exact .refl _
    | list related => exact .list (forall₂_of_mem related ih)
  | tuple each ih =>
    intro w related
    cases related with
    | same => exact .refl _
    | tuple related =>
      have like := PrintsLike.list (forall₂_of_mem related ih)
      exact ⟨like.obstacle, like.plain⟩
  | set each ih =>
    intro w related
    cases related with
    | same => exact .refl _
    | set perm related =>
      exact .set perm (forall₂_of_mem related fun x hx => ih x (perm.mem_iff.mpr hx)) each
  | frozenset each ih =>
    intro w related
    cases related with
    | same => exact .refl _
    | frozenset perm related =>
      have like := PrintsLike.set perm
        (forall₂_of_mem related fun x hx => ih x (perm.mem_iff.mpr hx)) each
      exact ⟨like.obstacle, like.plain⟩
  | dict names each ih =>
    intro w related
    cases related with
    | same => exact .refl _
    | dict perm related =>
      refine .dict perm (forall₂_of_mem related fun e he f entry => ?_) names each
      cases entry with
      | entry key inner => exact ⟨rfl, ih (key, _) (perm.mem_iff.mpr he) _ inner⟩
  | success inner ih =>
    intro w related
    cases related with
    | same => exact .refl _
    | success related => exact .success (ih _ related)
  | failure inner ih =>
    intro w related
    cases related with
    | same => exact .refl _
    | failure related => exact .failure (ih _ related)
  | generator inner ih =>
    intro w related
    cases related with
    | same => exact .refl _
    | generator related => exact .generator (ih _ related)
  | response body headers first second ih ih' =>
    intro w related
    cases related with
    | same => exact .refl _
    | response _ _ related related' => exact .response body headers (ih _ related) (ih' _ related')
  | summary first second each ih ih' ihs =>
    intro w related
    cases related with
    | same => exact .refl _
    | summary related related' others =>
      exact .summary (ih _ related) (ih' _ related') (forall₂_of_mem others ihs)
  | _ =>
    intro w related
    cases related
    exact .refl _

end Value

namespace Environment

/-- A snapshot shows no more of what is kept for the server than its text. -/
theorem snapshot_printsLike (e : Environment) {w : Value} (h : e.clientLocal.PrintsLike w) :
    e.snapshot.PrintsLike ({ e with clientLocal := w } : Environment).snapshot := by
  rw [snapshot_eq, snapshot_eq]
  refine .fields ?_ (parts_distinct e)
  simp only [parts, List.forall₂_cons, true_and, Value.PrintsLike.refl, h,
    List.forall₂_nil_left_iff]

end Environment

/-- The canonical text does not depend on the order of entries and members at any depth, and neither
does the fingerprint of an environment that keeps the value for the server. There is a canonical
text unless an integer is too long to be written. -/
theorem Value.canonicalText_reordered (v w : Value) (ordinary : v.Ordinary)
    (reordered : v.Reordered w) :
    v.canonicalText = w.canonicalText ∧
      ((v.plain []).holdsLong = false →
        ∃ text, v.canonicalText = .ok text ∧ w.canonicalText = .ok text) ∧
      ∀ e : Environment, e.clientLocal = v →
        ({ e with clientLocal := w } : Environment).fingerprint = e.fingerprint := by
  have like := ordinary.printsLike w reordered
  refine ⟨like.canonicalText, ?_, ?_⟩
  · intro short
    have text : v.canonicalText = .ok (.ofPoints (v.plain []).write) := by
      rw [Value.canonicalText, canonicalize]
      cases blocked : v.obstacle? [] with
      | some e =>
        obtain ⟨_, long⟩ := ordinary.onlyLong e blocked
        rw [short] at long
        cases long
      | none =>
        simp only [bind, Except.bind, short]
        rfl
    exact ⟨_, text, like.canonicalText.symm.trans text⟩
  · rintro e rfl
    have snapshots := e.snapshot_printsLike like
    rw [Environment.fingerprint, Environment.fingerprint, canonicalHash, canonicalHash,
      canonicalBytes, canonicalBytes, snapshots.canonicalText]

/-- A number next to a set, which has a set as a member. -/
def Value.tagged : Value :=
  .dict [("count", .int 1), ("tags", .set [.int 2, .frozenset [.ofString "a", .none]])]

/-- The same entries and members in another order. -/
def Value.retagged : Value :=
  .dict [("tags", .set [.frozenset [.none, .ofString "a"], .int 2]), ("count", .int 1)]

theorem Value.tagged_canonicalText :
    tagged.Ordinary ∧ tagged.Reordered retagged ∧
      (∃ text, tagged.canonicalText = .ok text ∧ retagged.canonicalText = .ok text) ∧
      (Environment.start Option.none retagged).fingerprint =
        (Environment.start Option.none tagged).fingerprint := by
  have letters : (Value.frozenset [.ofString "a", .none]).Ordinary := by
    apply Ordinary.frozenset
    simp only [List.forall_mem_cons]
    exact ⟨.text (Wording.genuine_plain "a"), .none, List.forall_mem_nil _⟩
  have tags : (Value.set [.int 2, .frozenset [.ofString "a", .none]]).Ordinary := by
    apply Ordinary.set
    simp only [List.forall_mem_cons]
    exact ⟨.int 2, letters, List.forall_mem_nil _⟩
  have ordinary : tagged.Ordinary := by
    refine .dict ⟨?_, by decide⟩ ?_
    · simp only [List.map_cons, List.map_nil, List.forall_mem_cons]
      exact ⟨⟨_, rfl, Wording.genuine_plain "count"⟩, ⟨_, rfl, Wording.genuine_plain "tags"⟩,
        List.forall_mem_nil _⟩
    · simp only [List.forall_mem_cons]
      exact ⟨.int 1, tags, List.forall_mem_nil _⟩
  have members : (Value.set [.int 2, .frozenset [.ofString "a", .none]]).Reordered
      (.set [.frozenset [.none, .ofString "a"], .int 2]) :=
    .set (.swap _ _ _) (.cons (.frozenset (.swap _ _ _) (.cons (.same _) (.cons (.same _) .nil)))
      (.cons (.same _) .nil))
  have reordered : tagged.Reordered retagged :=
    .dict (.swap _ _ _) (.cons (.entry _ members) (.cons (.entry _ (.same _)) .nil))
  -- A sort does not evaluate, but it keeps the items.
  have short : (tagged.plain []).holdsLong = false := by
    have one : Number.exceedsDigitLimit 1 = false := by decide +kernel
    have two : Number.exceedsDigitLimit 2 = false := by decide +kernel
    rw [tagged, plain_dict (by decide), Json.holdsLong, Json.anyEntryHoldsLong_eq]
    simp only [List.map_cons, List.map_nil, List.any_cons, List.any_nil, ofString, plain,
      Json.holdsLong_sortByText, anyHoldsLong_plainAll]
    simp [Json.holdsLong, one, two]
  obtain ⟨_, text, fingerprint⟩ := canonicalText_reordered tagged retagged ordinary reordered
  exact ⟨ordinary, reordered, text short, fingerprint (Environment.start Option.none tagged) rfl⟩

end Rehearsal
