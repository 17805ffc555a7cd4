import Rehearsal.Proofs.Host.Turns
import Rehearsal.Proofs.Run.Scope

/-!
# The clients of a host

A host is used in turns: a run of an operand, whatever it comes to, or a close. Between the turns
and within them, every open client is the default one or a session, so that a close reaches all of
them; nothing else closes a client. Requests without a session are handed to one open client up to
the next close.
-/

namespace Rehearsal

namespace Host

variable {σ : Type}

/-! ## Open clients -/

theorem isOpen_makeClient (k : Nat) (h : Host σ) :
    h.makeClient.2.isOpen k = true ↔ h.isOpen k = true ∨ k = h.clients.length := by
  rcases Nat.lt_trichotomy k h.clients.length with below | rfl | above
  · simp [makeClient, isOpen, List.getElem?_append_left below, Nat.ne_of_lt below]
  · simp [makeClient, isOpen]
  · have past : (h.clients ++ [({} : Client)]).length ≤ k := by simp; omega
    have none : h.clients[k]? = none := List.getElem?_eq_none (Nat.le_of_lt above)
    simp [makeClient, isOpen, List.getElem?_eq_none past, none, Nat.ne_of_gt above]

theorem isOpen_setCookies (k client : Nat) (jar : List Cookie) (h : Host σ) :
    (h.setCookies client jar).isOpen k = h.isOpen k := by
  simp only [setCookies, isOpen, List.getElem?_modify]
  cases h.clients[k]? with
  | none => rfl
  | some c => by_cases hc : client = k <;> simp [hc]

theorem isOpen_closeClient (k client : Nat) (h : Host σ) :
    (h.closeClient client).isOpen k = true ↔ h.isOpen k = true ∧ k ≠ client := by
  simp only [closeClient, isOpen, List.getElem?_modify]
  cases h.clients[k]? with
  | none => simp
  | some c =>
    by_cases hc : client = k
    · simp [hc]
    · simp [hc, Ne.symm hc]

theorem isOpen_closeClients (k : Nat) (clients : List Nat) (h : Host σ) :
    (clients.foldl closeClient h).isOpen k = true ↔ h.isOpen k = true ∧ k ∉ clients := by
  induction clients generalizing h with
  | nil => simp
  | cons client rest ih =>
    rw [List.foldl_cons, ih, isOpen_closeClient, List.mem_cons, not_or, and_assoc]

theorem isOpen_close (k : Nat) (h : Host σ) :
    h.close.isOpen k = true ↔
      h.isOpen k = true ∧ k ∉ h.sessions ∧ h.defaultClient ≠ some k := by
  have sessions := isOpen_closeClients k h.sessions h
  cases hd : h.defaultClient with
  | none =>
    have closed : h.close.isOpen k = (h.sessions.foldl closeClient h).isOpen k := by
      unfold close
      rw [hd]
      rfl
    simp [closed, sessions]
  | some client =>
    have closed : h.close.isOpen k =
        ((h.sessions.foldl closeClient h).closeClient client).isOpen k := by
      unfold close
      rw [hd]
      rfl
    rw [closed, isOpen_closeClient, sessions, and_assoc]
    simp only [ne_eq, Option.some.injEq, eq_comm]

/-! ## The default client -/

theorem ownClient_current (h : Host σ) : h.ownClient.2.defaultClient = some h.ownClient.1 := by
  unfold ownClient
  cases hd : h.defaultClient with
  | none => rfl
  | some client => exact hd

theorem ownClient_of_some {h : Host σ} {k : Nat} (hk : h.defaultClient = some k) :
    h.ownClient = (k, h) := by
  rw [ownClient, hk]

theorem ownClient_of_none {h : Host σ} (hn : h.defaultClient = none) :
    h.ownClient =
      (h.clients.length, { h.makeClient.2 with defaultClient := some h.clients.length }) := by
  rw [ownClient, hn]
  rfl

theorem clientFor_given {session : Value} (given : session ≠ .none) (h : Host σ) :
    (h.clientFor session).2 = h := by
  cases session with
  | none => exact absurd rfl given
  | _ => rfl

/-! ## What is known of the clients between the acts -/

/-- A client that a close reaches. -/
def Holds (k : Nat) (h : Host σ) : Prop := h.defaultClient = some k ∨ k ∈ h.sessions

/-- The open clients are those that a close reaches. -/
def Accounted (h : Host σ) : Prop := ∀ k, h.isOpen k = true ↔ h.Holds k

/-- The clients of two hosts are the same, their cookies apart. -/
structure SameClients (h u : Host σ) : Prop where
  count : u.clients.length = h.clients.length
  opened : ∀ k, u.isOpen k = h.isOpen k
  current : u.defaultClient = h.defaultClient
  sessions : u.sessions = h.sessions

theorem SameClients.refl (h : Host σ) : h.SameClients h := ⟨rfl, fun _ => rfl, rfl, rfl⟩

theorem SameClients.accounted {h u : Host σ} (same : h.SameClients u) (ha : h.Accounted) :
    u.Accounted := by
  intro k
  rw [same.opened, ha k, Holds, Holds, same.current, same.sessions]

theorem sameClients_frame (h : Host σ) : Frame h.SameClients where
  world _ hu := ⟨hu.count, hu.opened, hu.current, hu.sessions⟩
  stream {u} name s hu := by
    unfold setStream
    repeat' split
    all_goals exact ⟨hu.count, hu.opened, hu.current, hu.sessions⟩
  echo _ _ hu := ⟨hu.count, hu.opened, hu.current, hu.sessions⟩
  cookies client jar hu :=
    ⟨(List.length_modify ..).trans hu.count,
      fun k => (isOpen_setCookies k client jar _).trans (hu.opened k), hu.current, hu.sessions⟩

/-- What a request can do to the clients of a host: it finds the default client, makes a session, or
leaves them as they are. -/
theorem perform_clients (m : Machine σ) (context : List Value) (r : Request) (h : Host σ) :
    (∃ request, r = .http request .none ∧ h.ownClient.2.SameClients (r.perform m context h).2) ∨
      (r = .newSession ∧ r.perform m context h = (.ok (.client h.clients.length), h.newSession.2)) ∨
      ((∀ request, r ≠ .http request .none) ∧ r ≠ .newSession ∧
        h.SameClients (r.perform m context h).2) := by
  cases r with
  | newSession => exact .inr (.inl ⟨rfl, rfl⟩)
  | http request session =>
    by_cases own : session = .none
    · subst own
      have same : h.ownClient.2.SameClients (h.clientFor .none).2 := .refl _
      exact .inl ⟨request, rfl, request_keeps (sameClients_frame _).toBackdrop m request .none same⟩
    · have same : h.SameClients (h.clientFor session).2 := by
        rw [clientFor_given own]
        exact .refl h
      refine .inr (.inr ⟨fun _ he => own (by cases he; rfl), nofun, ?_⟩)
      exact request_keeps (sameClients_frame h).toBackdrop m request session same
  | _ =>
    refine .inr (.inr ⟨nofun, nofun, ?_⟩)
    refine Request.perform_keeps (sameClients_frame h) m context _ (.refl h) ?own ?made ?noted
    case own => exact nofun
    case made => exact nofun
    case noted => exact fun _ _ => ⟨rfl, fun _ => rfl, rfl, rfl⟩

theorem Accounted.ownClient {h : Host σ} (ha : h.Accounted) : h.ownClient.2.Accounted := by
  cases hd : h.defaultClient with
  | some client =>
    rw [ownClient_of_some hd]
    exact ha
  | none =>
    intro k
    rw [ownClient_of_none hd]
    change h.makeClient.2.isOpen k = true ↔ some h.clients.length = some k ∨ k ∈ h.sessions
    rw [isOpen_makeClient, ha k, Holds, hd, Option.some.injEq, eq_comm (a := k), or_comm]
    simp only [reduceCtorEq, false_or]

theorem Accounted.newSession {h : Host σ} (ha : h.Accounted) : h.newSession.2.Accounted := by
  intro k
  change h.makeClient.2.isOpen k = true ↔
    h.defaultClient = some k ∨ k ∈ h.sessions ++ [h.clients.length]
  rw [isOpen_makeClient, ha k, Holds, List.mem_append, List.mem_singleton, or_assoc]

/-- A close leaves no client open. -/
theorem Accounted.close_all {h : Host σ} (ha : h.Accounted) (k : Nat) :
    h.close.isOpen k = false := by
  rw [← Bool.not_eq_true, isOpen_close, ha k]
  rintro ⟨own | lent, noSession, notOwn⟩
  · exact notOwn own
  · exact noSession lent

theorem Accounted.close {h : Host σ} (ha : h.Accounted) : h.close.Accounted := by
  intro k
  rw [ha.close_all k]
  have none : ¬ h.close.Holds k := by
    rintro (own | lent)
    · cases own
    · cases lent
  simp [none]

/-- A host as it is set up: without clients, or with one that it is given as the default one. -/
def starting (given : Bool) (h : Host σ) : Host σ :=
  let bare := { h with clients := [], defaultClient := none, sessions := [] }
  if given then bare.withDefaultClient else bare

theorem accounted_starting (given : Bool) (h : Host σ) : (h.starting given).Accounted := by
  have bare : (h.starting false).Accounted := by
    intro k
    simp [starting, isOpen, Holds]
  cases given with
  | false => exact bare
  | true => exact bare.ownClient

/-! ## Acts -/

/-- One if there is a default client, none otherwise. -/
def ownCount (h : Host σ) : Nat := if h.defaultClient.isSome then 1 else 0

def Act.makesSession : Act → Bool
  | .performed _ .newSession _ => true
  | _ => false

/-- What an act other than a release can do to the clients: none closes, a default client stays, and
those made are the sessions asked for and a default client where there was none. -/
structure Widens (sessions : Nat) (h u : Host σ) : Prop where
  opened : ∀ k, h.isOpen k = true → u.isOpen k = true
  current : ∀ k, h.defaultClient = some k → u.defaultClient = some k
  count : u.clients.length + h.ownCount = h.clients.length + sessions + u.ownCount

theorem SameClients.widens {h u : Host σ} (same : h.SameClients u) : h.Widens 0 u where
  opened k hk := (same.opened k).trans hk
  current _ hk := same.current.trans hk
  count := by rw [same.count, ownCount, ownCount, same.current, Nat.add_zero]

theorem Widens.trans {h u w : Host σ} {i j : Nat} (first : h.Widens i u) (second : u.Widens j w) :
    h.Widens (i + j) w where
  opened k hk := second.opened k (first.opened k hk)
  current k hk := second.current k (first.current k hk)
  count := by
    have := first.count
    have := second.count
    omega

theorem widens_ownClient (h : Host σ) : h.Widens 0 h.ownClient.2 := by
  cases hd : h.defaultClient with
  | some client =>
    rw [ownClient_of_some hd]
    exact (SameClients.refl h).widens
  | none =>
    rw [ownClient_of_none hd]
    refine ⟨fun k hk => (isOpen_makeClient k h).mpr (.inl hk), fun k hk => ?_, ?_⟩
    · rw [hd] at hk
      cases hk
    · simp [ownCount, hd, makeClient]

theorem widens_newSession (h : Host σ) : h.Widens 1 h.newSession.2 where
  opened k hk := (isOpen_makeClient k h).mpr (.inl hk)
  current _ hk := hk
  count := by
    simp only [newSession, makeClient, ownCount, List.length_append, List.length_singleton]
    rfl

theorem Act.apply_widens (m : Machine σ) {act : Act} (kept : act ≠ .released) (h : Host σ) :
    h.Widens (if act.makesSession then 1 else 0) (act.apply m h) := by
  cases act with
  | released => exact absurd rfl kept
  | began => exact ⟨fun _ hk => hk, fun _ hk => hk, rfl⟩
  | performed context r outcome =>
    obtain ⟨request, rfl, same⟩ | ⟨rfl, made⟩ | ⟨_, other, same⟩ := perform_clients m context r h
    · exact (widens_ownClient h).trans same.widens
    · rw [Act.apply, made]
      exact widens_newSession h
    · have none : (Act.performed context r outcome).makesSession = false := by
        cases r with
        | newSession => exact absurd rfl other
        | _ => rfl
      rw [none]
      exact same.widens

theorem Act.apply_accounted (m : Machine σ) (act : Act) {h : Host σ} (ha : h.Accounted) :
    (act.apply m h).Accounted := by
  cases act with
  | released => exact ha.close
  | began => exact ha
  | performed context r outcome =>
    obtain ⟨request, rfl, same⟩ | ⟨rfl, made⟩ | ⟨_, _, same⟩ := perform_clients m context r h
    · exact same.accounted ha.ownClient
    · rw [Act.apply, made]
      exact ha.newSession
    · exact same.accounted ha

theorem after_accounted (m : Machine σ) (acts : List Act) {h : Host σ} (ha : h.Accounted) :
    (after m acts h).Accounted := by
  induction acts generalizing h with
  | nil => exact ha
  | cons act rest ih => exact ih (act.apply_accounted m ha)

theorem after_widens (m : Machine σ) {acts : List Act} (kept : .released ∉ acts) (h : Host σ) :
    h.Widens (acts.countP Act.makesSession) (after m acts h) := by
  induction acts generalizing h with
  | nil => exact (SameClients.refl h).widens
  | cons act rest ih =>
    rw [List.mem_cons, not_or] at kept
    rw [List.countP_cons, Nat.add_comm]
    exact (act.apply_widens m (Ne.symm kept.1) h).trans (ih kept.2 (act.apply m h))

/-! ## Requests on their way -/

/-- At a host, a request asks no transport but that of this client. -/
def GoesThrough (m : Machine σ) (client : Nat) (context : List Value) (r : Request)
    (h : Host σ) : Prop :=
  ∀ send, send client = m.send client → r.perform { m with send } context h = r.perform m context h

theorem goesThrough_own (m : Machine σ) (context : List Value) (r : HttpRequest) (h : Host σ) :
    GoesThrough m h.ownClient.1 context (.http r .none) h := by
  intro send same
  change h.request { m with send } r .none = h.request m r .none
  unfold request clientFor
  simp only [andThen, same]
  rfl

/-- The client sends a request once, and its transport's answer decides what comes of it. -/
def exchange (m : Machine σ) (client : Nat) (r : HttpRequest) (asked : Url) (h : Host σ) :
    Outcome Value × Host σ :=
  let (answer, world) := m.send client ⟨r.method, asked, r.payload⟩ h.world
  let (answer, left) := { h with world }.received m client asked answer
  (resultOf r.url answer, left)

/-- What becomes of a request at a host that has found a client for it. -/
structure Sends (m : Machine σ) (client : Nat) (r : HttpRequest) (found : Host σ)
    (step : Outcome Value × Host σ) : Prop where
  /-- A request is sent on this client if its address can be read and passes. -/
  handed : ∀ asked, r.url.address = .ok asked → found.checkRequest client asked = .ok () →
    step = found.exchange m client r asked
  /-- An address passes unless cookies cannot be looked up for it or its host cannot be named. -/
  passes : ∀ asked, found.checkRequest client asked = .ok () ↔
    (found.cookies client = [] ∨ asked.isTyped = true) ∧ asked.checkNamed = .ok ()
  /-- Otherwise nothing is sent. -/
  unread : ∀ e, r.url.address = .error e → step = (.error e, found)
  refused : ∀ asked e, r.url.address = .ok asked → found.checkRequest client asked = .error e →
    step = (.error e, found)

/-- An open client refuses a request for its address only. -/
theorem checkRequest_iff {client : Nat} {asked : Url} {h : Host σ}
    (opened : h.isOpen client = true) :
    h.checkRequest client asked = .ok () ↔
      (h.cookies client = [] ∨ asked.isTyped = true) ∧ asked.checkNamed = .ok () := by
  unfold checkRequest checkOpen Url.checkTyped
  rw [opened]
  cases jar : h.cookies client with
  | nil => cases asked.checkNamed <;> simp [bind, Except.bind]
  | cons cookie rest =>
    cases typed : asked.isTyped with
    | false => simp [bind, Except.bind]
    | true => cases asked.checkNamed <;> simp [bind, Except.bind]

theorem request_sends (m : Machine σ) (context : List Value) {r : HttpRequest} {session : Value}
    {client : Nat} {h found : Host σ} (finds : h.clientFor session = (.ok client, found))
    (opened : found.isOpen client = true) :
    Sends m client r found ((Request.http r session).perform m context h) := by
  have performed : (Request.http r session).perform m context h = h.request m r session := rfl
  rw [performed, request, finds]
  refine ⟨fun asked address passed => ?_, fun _ => checkRequest_iff opened, fun e unread => ?_,
    fun asked e address refused => ?_⟩
  · simp only [andThen, still, address, passed]
    rfl
  · simp only [andThen, still, unread]
  · simp only [andThen, still, address, refused]

/-- What holds of the clients of a host through acts. -/
structure ClientsKept (m : Machine σ) (acts : List Act) (start : Host σ) : Prop where
  /-- At every point, the open clients are the default one and the sessions. -/
  accounted : ∀ before rest, acts = before ++ rest → (after m before start).Accounted
  /-- Once the clients are released, all are closed. -/
  released : ∀ before rest, acts = before ++ .released :: rest →
    ∀ k, (after m (before ++ [.released]) start).isOpen k = false
  /-- Nothing else closes a client. -/
  lasting : ∀ before act rest, acts = before ++ act :: rest → act ≠ .released →
    ∀ k, (after m before start).isOpen k = true → (after m (before ++ [act]) start).isOpen k = true
  /-- A new session is a new client, which is open. -/
  lent : ∀ before context outcome rest,
    acts = before ++ .performed context .newSession outcome :: rest →
      ∃ k, outcome = .ok (.client k) ∧ k = (after m before start).clients.length ∧
        (after m (before ++ [.performed context .newSession outcome]) start).isOpen k = true
  /-- A request without a session is sent on an open client, the default one, and on no other. -/
  sent : ∀ before context r outcome rest,
    acts = before ++ .performed context (.http r .none) outcome :: rest →
      ∃ k own, (after m before start).ownClient = (k, own) ∧ own.defaultClient = some k ∧
        own.isOpen k = true ∧ GoesThrough m k context (.http r .none) (after m before start) ∧
        Sends m k r own
          (outcome, after m (before ++ [.performed context (.http r .none) outcome]) start)
  /-- Without a release between them, two such requests go through the same client. -/
  shared : ∀ before context r outcome between context' r' outcome' rest,
    acts = before ++ .performed context (.http r .none) outcome ::
        (between ++ .performed context' (.http r' .none) outcome' :: rest) →
      .released ∉ between →
        (after m (before ++ .performed context (.http r .none) outcome :: between)
          start).ownClient.1 = (after m before start).ownClient.1
  /-- Without a release, at most one client is made beside the sessions. -/
  single : ∀ before between rest, acts = before ++ (between ++ rest) → .released ∉ between →
    (after m (before ++ between) start).clients.length ≤
      (after m before start).clients.length + between.countP Act.makesSession + 1

theorem after_clientsKept (m : Machine σ) {acts : List Act} {start : Host σ}
    (ha : start.Accounted) (told : Told m acts start) : ClientsKept m acts start where
  accounted before _ _ := after_accounted m before ha
  released before _ _ k := by
    rw [after_append]
    exact (after_accounted m before ha).close_all k
  lasting before act _ _ kept k hk := by
    rw [after_append]
    exact (act.apply_widens m kept _).opened k hk
  lent before context outcome rest split := by
    subst split
    have opened := isOpen_makeClient (after m before start).clients.length (after m before start)
    rw [after_append]
    exact ⟨_, told.outcome, rfl, opened.mpr (.inr rfl)⟩
  sent before context r outcome rest split := by
    subst split
    have accounted := (after_accounted m before ha).ownClient
    have current := ownClient_current (after m before start)
    have opened := (accounted _).mpr (.inl current)
    have finds : (after m before start).clientFor .none =
        (.ok (after m before start).ownClient.1, (after m before start).ownClient.2) := rfl
    refine ⟨_, _, rfl, current, opened, goesThrough_own m context r _, ?_⟩
    rw [after_append, told.outcome]
    exact request_sends m context finds opened
  shared before context r outcome between _ _ _ _ _ kept := by
    have found := ownClient_current (after m before start)
    obtain ⟨_, _, same⟩ | ⟨other, _⟩ | ⟨other, _⟩ :=
      perform_clients m context (.http r .none) (after m before start)
    · have first := same.current.trans found
      have last := (after_widens m kept _).current _ first
      rw [after_append, after_cons, Act.apply, ownClient_of_some last]
    · cases other
    · exact absurd rfl (other r)
  single before between _ _ kept := by
    have count := (after_widens m kept (after m before start)).count
    have one : (after m between (after m before start)).ownCount ≤ 1 := by
      unfold ownCount
      split <;> decide
    rw [after_append]
    omega

/-- However a host is set up and whatever turns are taken with it, its clients are kept: none is
leaked, and only a close closes them. -/
theorem clients_kept (m : Machine σ) (given : Bool) (h : Host σ) (turns : List Turn) :
    ClientsKept m (acts m turns (h.starting given)) (h.starting given) ∧
      after m (acts m turns (h.starting given)) (h.starting given) =
        taken m turns (h.starting given) := by
  obtain ⟨left, told⟩ := acts_lead m turns (h.starting given)
  exact ⟨after_clientsKept m (accounted_starting given h) told, left⟩

/-- A host that is used after a close makes another default client. -/
example :
    let asks : Turn := .run (.program (.ask (.http ⟨.get, .int 1, []⟩ .none))) []
    let left := taken Machine.bare [asks, .run (.program (.ask .newSession)) [], .close, asks]
      ({ world := () } : Host Unit)
    left.clients.map (·.isOpen) = [false, false, true] ∧ left.defaultClient = some 2 ∧
      left.sessions = [] := by
  decide +kernel

end Host

end Rehearsal
