import Rehearsal.Proofs.Host.Clients
import Rehearsal.Proofs.Host.Files

/-!
# What becomes of a failed request

A request is answered by a response or by a failure of the transport. A response is handed on as a
successful result and a failure as a failed one, but not every failure: those of the transport
itself are, while a failure that lies in what was delivered gets out as an error, as does a response
that leads to an address that no request could be made for.
-/

namespace Rehearsal

namespace Outcome

/-- The outcome is no failure of the transport. -/
def Local {α : Type} (x : Outcome α) : Prop := ∀ f, x ≠ .error (.transport f)

variable {α β : Type}

theorem local_ok (a : α) : Local (.ok a) := fun _ h => by cases h

theorem Local.bind {x : Outcome α} {f : α → Outcome β} (hx : x.Local) (hf : ∀ a, (f a).Local) :
    (x >>= f).Local := by
  cases x with
  | ok a => exact hf a
  | error e =>
    intro failure h
    exact hx failure (congrArg Except.error (Except.error.inj h))

theorem local_mapError {ε : Type} {x : Except ε α} {cause : ε → Error}
    (other : ∀ e f, cause e ≠ .transport f) : Local (x.mapError cause) := by
  cases x with
  | ok a => exact local_ok a
  | error e =>
    intro failure h
    exact other e failure (Except.error.inj h)

end Outcome

namespace Url

theorem shownHost_local (u : Url) : u.shownHost.Local := by
  refine Outcome.local_mapError fun _ _ h => ?_
  cases h

theorem checkNamed_local (u : Url) : u.checkNamed.Local := by
  refine u.shownHost_local.bind fun _ => ?_
  split
  · intro _ h
    cases h
  · exact Outcome.local_ok ()

/-- To go on from a request is not to ask the transport. -/
theorem redirected_local (asked location : Url) : (asked.redirected location).Local := by
  have invalid {α : Type} {x : Except UrlFailure α} : Outcome.Local (x.mapError .invalidUrl) := by
    refine Outcome.local_mapError fun _ _ h => ?_
    cases h
  have hosted : (asked.hosted location).Local := by
    unfold hosted
    split
    · exact Outcome.local_ok location
    · refine location.shownHost_local.bind fun _ => ?_
      split
      · exact asked.shownHost_local.bind fun _ => invalid
      · exact Outcome.local_ok location
  have completed (u : Url) : (asked.completed u).Local := by
    unfold completed
    split
    · exact Outcome.local_ok u
    · exact invalid
  have tagged (u : Url) : (asked.tagged u).Local := by
    unfold tagged
    split
    · split
      · exact Outcome.local_ok u
      · exact invalid
    · exact Outcome.local_ok u
  exact hosted.bind fun u => (completed u).bind tagged

end Url

namespace Response

/-- The answer is a response, which is handed on as the second one once its body is unpacked. -/
def Unpacks (answer : Outcome Response) (response : Response) : Prop :=
  ∃ raw body, answer = .ok raw ∧ raw.wideHeader? = none ∧
    Compression.decode (encodings raw.deliveredHeaders) raw.body = .ok body ∧
    response = ⟨raw.status, body, raw.deliveredHeaders, raw.url⟩

/-- The response leads nowhere, or to an address that a request could be made for. -/
def Usable (asked : Url) (response : Response) : Prop :=
  ∀ text, response.location? = some text → ∃ location target,
    Url.parse text = .ok location ∧ asked.redirected location = .ok target ∧
      target.checkNamed = .ok () ∧ target.isTyped = true

section

variable {asked : Url} {response : Response} (jar : List Cookie)

theorem checkRedirect_usable (usable : response.Usable asked) :
    response.checkRedirect asked jar = .ok () := by
  unfold checkRedirect
  cases leads : response.location? with
  | none => rfl
  | some text =>
    obtain ⟨location, target, parsed, redirected, named, typed⟩ := usable text leads
    simp only [Option.map_some, parsed, redirected, named, bind, Except.bind, Url.checkTyped,
      typed, ↓reduceIte]
    split <;> rfl

theorem checkRedirect_broken {text : String} {f : UrlFailure}
    (leads : response.location? = some text) (broken : Url.parse text = .error f) :
    response.checkRedirect asked jar = .error (.transport ⟨.remoteProtocolError,
      "Invalid URL in location header: " ++ f.message ++ "."⟩) := by
  unfold checkRedirect
  simp only [leads, Option.map_some, broken]
  rfl

theorem checkRedirect_unusable {text : String} {location : Url} {e : Error}
    (leads : response.location? = some text) (parsed : Url.parse text = .ok location)
    (unusable : (asked.redirected location >>= Url.checkNamed) = .error e) :
    response.checkRedirect asked jar = .error e := by
  unfold checkRedirect
  simp only [leads, Option.map_some, parsed]
  cases going : asked.redirected location with
  | error refused =>
    rw [going] at unusable
    exact unusable
  | ok target =>
    rw [going] at unusable
    have unnamed : target.checkNamed = .error e := unusable
    simp only [bind, Except.bind, unnamed]

end

end Response

/-- The failures that are not of the transport itself. -/
def TransportKind.outside : List TransportKind := [.requestError, .decodingError, .tooManyRedirects]

theorem TransportKind.isTransport_iff {kind : TransportKind} :
    kind.isTransport = true ↔ kind ∉ outside := by
  cases kind <;> decide

theorem Value.address_text {v : Value} {asked : Url} (h : v.address = .ok asked) :
    ∃ w, v = .text w := by
  unfold Value.address at h
  split at h
  · next w => exact ⟨w, rfl⟩
  · next v other =>
    obtain ⟨_, _, h⟩ := Outcome.bind_eq_ok.mp h
    cases h

namespace Host

variable {σ : Type}

/-! ## Before a request is sent -/

/-- A request finds an open client if its session is open or there is none. -/
theorem clientFor_ready {session : Value} {h : Host σ} (accounted : h.Accounted)
    (ready : session = .none ∨ ∃ k, session = .client k ∧ h.isOpen k = true) :
    ∃ client found, h.clientFor session = (.ok client, found) ∧ found.world = h.world ∧
      found.isOpen client = true := by
  obtain rfl | ⟨k, rfl, opened⟩ := ready
  · have world : h.ownClient.2.world = h.world := by
      unfold ownClient
      split <;> rfl
    have opened := (accounted.ownClient h.ownClient.1).mpr (.inl (ownClient_current h))
    exact ⟨h.ownClient.1, h.ownClient.2, rfl, world, opened⟩
  · exact ⟨k, h, rfl, rfl, opened⟩

/-! ## After it is answered -/

theorem resultOf_local {url : Value} {e : Error} (other : ∀ f, e ≠ .transport f) :
    resultOf url (.error e) = .error e := by
  cases e with
  | transport f => exact absurd rfl (other f)
  | _ => rfl

/-- A failure of the transport itself becomes a fault of the address. -/
theorem resultOf_transport {w : Wording} {f : TransportFailure}
    (own : f.kind ∉ TransportKind.outside) :
    resultOf (.text w) (.error (.transport f)) =
      .ok (.failure (.fault ⟨.transport, .ofString f.reason, .text w⟩)) := by
  have caught : f.kind.isTransport = true := TransportKind.isTransport_iff.mpr own
  unfold resultOf
  dsimp only
  rw [caught]
  rfl

theorem resultOf_outside {url : Value} {f : TransportFailure}
    (other : f.kind ∈ TransportKind.outside) :
    resultOf url (.error (.transport f)) = .error (.transport f) := by
  have escapes : f.kind.isTransport = false := by
    rw [← Bool.not_eq_true, TransportKind.isTransport_iff]
    exact fun own => own other
  unfold resultOf
  dsimp only
  rw [escapes]
  rfl

theorem received_error (m : Machine σ) (client : Nat) (asked : Url) (e : Error) (h : Host σ) :
    (h.received m client asked (.error e)).1 = .error e := rfl

section

variable {asked : Url} {answer : Outcome Response} {response : Response} (m : Machine σ)
  (client : Nat) (h : Host σ)

/-- A header that is not in ASCII is looked at before the body. -/
theorem received_wide {raw : Response} {f : Text.EncodeFailure} (answered : answer = .ok raw)
    (wide : raw.wideHeader? = some f) :
    (h.received m client asked answer).1 = .error (.notAscii f) := by
  subst answered
  have delivered : raw.delivered = .error (.notAscii f) := by
    unfold Response.delivered
    simp only [wide]
  unfold received
  simp only [bind, Except.bind, delivered]
  rfl

/-- A body that does not unpack is a failure that lies in what was delivered. -/
theorem received_packed {raw : Response} {f : Inflate.Failure} (answered : answer = .ok raw)
    (narrow : raw.wideHeader? = none)
    (stuck : Compression.decode (Response.encodings raw.deliveredHeaders) raw.body = .error f) :
    (h.received m client asked answer).1 = .error (.transport ⟨.decodingError, f.message⟩) := by
  subst answered
  have delivered : raw.delivered = .error (.transport ⟨.decodingError, f.message⟩) := by
    unfold Response.delivered
    simp only [narrow, stuck]
  unfold received
  simp only [bind, Except.bind, delivered]
  rfl

theorem received_untyped (unpacks : Response.Unpacks answer response)
    (untyped : asked.isTyped = false) :
    (h.received m client asked answer).1 = .error (.rejected (.untyped asked.taggedText)) := by
  obtain ⟨raw, body, rfl, narrow, unpacked, rfl⟩ := unpacks
  have delivered : raw.delivered = .ok ⟨raw.status, body, raw.deliveredHeaders, raw.url⟩ := by
    unfold Response.delivered
    simp only [narrow, unpacked]
  unfold received Url.checkTyped
  simp only [bind, Except.bind, delivered, untyped]
  rfl

/-- A response that unpacks is handed on if its redirect passes, for the cookies kept by then. -/
theorem received_unpacked (unpacks : Response.Unpacks answer response)
    (typed : asked.isTyped = true) :
    ∃ jar, (h.received m client asked answer).1 =
      (response.checkRedirect asked jar).map fun _ =>
        { response with url := .ofString asked.text } := by
  obtain ⟨raw, body, rfl, narrow, unpacked, rfl⟩ := unpacks
  have delivered : raw.delivered = .ok ⟨raw.status, body, raw.deliveredHeaders, raw.url⟩ := by
    unfold Response.delivered
    simp only [narrow, unpacked]
  unfold received Url.checkTyped
  simp only [bind, Except.bind, delivered, typed, ↓reduceIte, pure, Except.pure, still, andThen]
  exact ⟨_, rfl⟩

end

/-- What a request that is sent comes to, by what the transport answers it with. -/
structure Handled (r : HttpRequest) (asked : Url) (answer : Outcome Response)
    (outcome : Outcome Value) : Prop where
  /-- A failure of the transport itself is a failed result: a fault of the address that was asked
  for, with the message of the failure or, where that is empty, the name of its kind. -/
  failed {f : TransportFailure} (answered : answer = .error (.transport f))
    (own : f.kind ∉ TransportKind.outside) :
    outcome = .ok (.failure (.fault ⟨.transport,
      .ofString (if f.message = "" then f.kind.name else f.message), r.url⟩))
  /-- Any other failure gets out. -/
  escaped {f : TransportFailure} (answered : answer = .error (.transport f))
    (other : f.kind ∈ TransportKind.outside) : outcome = .error (.transport f)
  /-- A response is a successful result with its status, its unpacked body, its headers and the
  address that was asked for. -/
  answered {response : Response} (unpacks : Response.Unpacks answer response)
    (typed : asked.isTyped = true) (usable : response.Usable asked) :
    outcome = .ok (.success (.response { response with url := .ofString asked.text }))
  /-- The failure to read a header that is not in ASCII gets out. -/
  wide {raw : Response} {f : Text.EncodeFailure} (answered : answer = .ok raw)
    (wide : raw.wideHeader? = some f) : outcome = .error (.notAscii f)
  /-- So does the failure to unpack a body. -/
  packed {raw : Response} {f : Inflate.Failure} (answered : answer = .ok raw)
    (narrow : raw.wideHeader? = none)
    (stuck : Compression.decode (Response.encodings raw.deliveredHeaders) raw.body = .error f) :
    outcome = .error (.transport ⟨.decodingError, f.message⟩)
  /-- So does the refusal of cookies for an address without a scheme. -/
  untyped {response : Response} (unpacks : Response.Unpacks answer response)
    (untyped : asked.isTyped = false) : outcome = .error (.rejected (.untyped asked.taggedText))
  /-- A response that leads to what is no address is a failed result. -/
  misled {response : Response} {text : String} {f : UrlFailure}
    (unpacks : Response.Unpacks answer response) (typed : asked.isTyped = true)
    (leads : response.location? = some text) (broken : Url.parse text = .error f) :
    outcome = .ok (.failure (.fault ⟨.transport,
      .ofString ("Invalid URL in location header: " ++ f.message ++ "."), r.url⟩))
  /-- That no request could be made for the address gets out. -/
  lost {response : Response} {text : String} {location : Url} {e : Error}
    (unpacks : Response.Unpacks answer response) (typed : asked.isTyped = true)
    (leads : response.location? = some text) (parsed : Url.parse text = .ok location)
    (unusable : (asked.redirected location >>= Url.checkNamed) = .error e) : outcome = .error e

theorem resultOf_handled (m : Machine σ) {r : HttpRequest} {asked : Url} {w : Wording}
    (url : r.url = .text w) (client : Nat) (answer : Outcome Response) (h : Host σ) :
    Handled r asked answer (resultOf r.url (h.received m client asked answer).1) where
  failed {f} answered own := by
    rw [answered, received_error, url, resultOf_transport own, TransportFailure.reason]
    simp only [String.isEmpty_iff]
  escaped answered other := by
    rw [answered, received_error, resultOf_outside other]
  answered unpacks typed usable := by
    obtain ⟨jar, received⟩ := received_unpacked m client h unpacks typed
    rw [received, Response.checkRedirect_usable jar usable]
    rfl
  wide answered wide := by
    rw [received_wide m client h answered wide]
    rfl
  packed answered narrow stuck := by
    have outside : TransportKind.decodingError ∈ TransportKind.outside := by decide
    rw [received_packed m client h answered narrow stuck]
    exact resultOf_outside outside
  untyped unpacks untyped := by
    rw [received_untyped m client h unpacks untyped]
    rfl
  misled {response text f} unpacks typed leads broken := by
    obtain ⟨jar, received⟩ := received_unpacked m client h unpacks typed
    let failure : TransportFailure :=
      ⟨.remoteProtocolError, "Invalid URL in location header: " ++ f.message ++ "."⟩
    have kind : TransportKind.remoteProtocolError ∉ TransportKind.outside := by decide
    have own : failure.kind ∉ TransportKind.outside := kind
    have reason : failure.reason = failure.message := by
      simp [failure, TransportFailure.reason]
    rw [received, Response.checkRedirect_broken jar leads broken, url]
    change resultOf (.text w) (.error (.transport failure)) = _
    rw [resultOf_transport own, reason]
  lost unpacks typed leads parsed unusable := by
    obtain ⟨jar, received⟩ := received_unpacked m client h unpacks typed
    rw [received, Response.checkRedirect_unusable jar leads parsed unusable]
    refine resultOf_local fun f same => ?_
    subst same
    exact (Url.redirected_local asked _).bind Url.checkNamed_local f unusable

/-- A host as it is after some acts. -/
def InUse (m : Machine σ) (h : Host σ) : Prop :=
  ∃ acts given start, h = after m acts (Host.starting given start)

/-- At any point of its use, a host refuses a request through an open session or through none before
it is sent, or hands on what the transport answers. The address is one that can be read. -/
theorem request_handled (m : Machine σ) (context : List Value) (r : HttpRequest) (session : Value)
    (asked : Url) (h : Host σ) (used : h.InUse m) (address : r.url.address = .ok asked)
    (ready : session = .none ∨ ∃ k, session = .client k ∧ h.isOpen k = true) :
    ∃ client found, h.clientFor session = (.ok client, found) ∧ found.world = h.world ∧
      (found.checkRequest client asked = .ok () ↔
        (found.cookies client = [] ∨ asked.isTyped = true) ∧ asked.checkNamed = .ok ()) ∧
      (∀ e, found.checkRequest client asked = .error e →
        ((Request.http r session).perform m context h).1 = .error e) ∧
      (found.checkRequest client asked = .ok () →
        Handled r asked (m.send client ⟨r.method, asked, r.payload⟩ h.world).1
          ((Request.http r session).perform m context h).1) := by
  obtain ⟨acts, given, start, history⟩ := used
  have accounted : h.Accounted := by
    rw [history]
    exact after_accounted m acts (accounted_starting given start)
  obtain ⟨client, found, finds, world, opened⟩ := clientFor_ready accounted ready
  obtain ⟨w, url⟩ := Value.address_text address
  have sends := request_sends m context finds opened (r := r)
  refine ⟨client, found, finds, world, sends.passes asked, ?_, ?_⟩
  · intro e refused
    rw [sends.refused asked e address refused]
  · intro passed
    rw [sends.handed asked address passed, ← world]
    exact resultOf_handled m url client _ _

/-- The address of a host by its name alone. -/
def front : Url := { scheme := "http", host := "h", path := "/" }

theorem front_address : (Value.text "http://h/").address = .ok front := by
  have read : (Value.text "http://h/").address.toOption = some front := by decide +kernel
  cases address : (Value.text "http://h/").address with
  | error e =>
    rw [address] at read
    cases read
  | ok asked =>
    rw [address] at read
    rw [Option.some.inj read]

theorem front_named : front.checkNamed = .ok () := rfl

theorem front_typed : front.isTyped = true := by decide +kernel

/-- Where nothing answers, a request without a session is a failed result. -/
theorem unanswered_request_handled :
    (Value.text "http://h/").address = .ok front ∧
      (Host.starting false ({ world := () } : Host Unit)).InUse Machine.bare ∧
      ((Request.http ⟨.get, "http://h/", []⟩ .none).perform Machine.bare []
        (Host.starting false { world := () })).1 =
        .ok (.failure (.fault ⟨.transport, "ConnectError", "http://h/"⟩)) := by
  have used : (Host.starting false ({ world := () } : Host Unit)).InUse Machine.bare :=
    ⟨[], false, _, rfl⟩
  obtain ⟨client, found, _, _, sendable, _, handled⟩ := request_handled Machine.bare []
    ⟨.get, "http://h/", []⟩ .none front _ used front_address (.inl rfl)
  have sent := sendable.mpr ⟨.inr front_typed, front_named⟩
  have own : TransportKind.connectError ∉ TransportKind.outside := by decide
  exact ⟨front_address, used, (handled sent).failed rfl own⟩

/-- A transport that could not unpack the body of an answer. -/
def undecoding : TransportFailure :=
  ⟨.decodingError, "Error -3 while decompressing data: incorrect header check"⟩

/-- A failure of the transport that is no fault passes an attempt. -/
theorem attempted_transport (kind : FaultKind) {step : Outcome Value × Host σ}
    {f : TransportFailure} (h : step.1 = .error (.transport f)) :
    (attempted kind step).1 = .error (.transport f) := by
  obtain ⟨outcome, left⟩ := step
  cases h
  rfl

/-- The failure to unpack a body gets out of an attempt. -/
theorem undecoded_request_escapes :
    (attemptAt { Machine.bare with send := fun _ _ w => (.error (.transport undecoding), w) }
        (.http ⟨.get, "http://h/", []⟩ .none) [] (Host.starting false { world := () })).1 =
      .error (.transport undecoding) := by
  obtain ⟨client, found, finds, _, opened⟩ :=
    clientFor_ready (accounted_starting false ({ world := () } : Host Unit)) (.inl rfl)
  have sent : found.checkRequest client front = .ok () :=
    (checkRequest_iff opened).mpr ⟨.inr front_typed, front_named⟩
  have outside : undecoding.kind ∈ TransportKind.outside := by decide
  apply attempted_transport
  change (request _ _ _ _).1 = _
  rw [request, finds]
  simp only [andThen, still, front_address, sent]
  exact resultOf_outside outside

end Host

end Rehearsal
