import Rehearsal.Host.Machine
import Rehearsal.Host.Redirect
import Rehearsal.Program.Operand

/-!
# Runs on a host

A run on a host reads and changes the host; what it did before it stopped with an error stays
done. Faults stop a run up to the next attempt that covers them. The context is only read,
and the assertions of a run go into one list, whatever context they are recorded in.
-/

namespace Rehearsal

namespace Host

variable {σ : Type}

/-- Goes on with the value of a step, or stops with its error. -/
def andThen {α β : Type} (step : Outcome α × Host σ)
    (next : α → Host σ → Outcome β × Host σ) : Outcome β × Host σ :=
  match step with
  | (.ok a, h) => next a h
  | (.error e, h) => (.error e, h)

/-- The outcome of a step that leaves the host as it is. -/
def still {α : Type} (result : Outcome α) (h : Host σ) : Outcome α × Host σ := (result, h)

/-! ## Console -/

/-- The stream of a handle, and the name of the handle. -/
def stream (handle : Value) (h : Host σ) : Outcome (String × Stream) := do
  let name ← handle.name
  match h.stream? name with
  | some s => return (name, s)
  | none => .error (.rejected (.handle name))

/-- Uses the stream of a handle. -/
def withStream (handle : Value) (use : String → Stream → Outcome (Value × Stream)) (h : Host σ) :
    Outcome Value × Host σ :=
  andThen (h.still (h.stream handle)) fun (name, s) h =>
    andThen (h.still (use name s)) fun (v, s) h => (.ok v, h.setStream name s)

def getEchoOf (handle : Value) (h : Host σ) : Outcome Value := do
  let (name, _) ← h.stream handle
  return .bool (h.getEcho name)

def setEchoOf (handle : Value) (on : Bool) (h : Host σ) : Outcome Value × Host σ :=
  andThen (h.still (h.stream handle)) fun (name, _) h => (.ok .none, h.setEcho name on)

def endOfInput (name : String) : Error :=
  .fault ⟨.endOfInput, "end of input", name⟩

/-- A terminal is read from its standard input only. -/
def checkReadable (name : String) (h : Host σ) : Outcome Unit :=
  if h.isTerminal name && name != "stdin" then .error (.unsupported "not readable") else .ok ()

def getChar (handle : Value) (h : Host σ) : Outcome Value × Host σ :=
  h.withStream handle fun name s => do
    h.checkReadable name
    match s.readChar with
    | none => .error (endOfInput name)
    | some (point, s) => return (.text (.ofPoints [point]), s)

def getLine (handle : Value) (h : Host σ) : Outcome Value × Host σ :=
  h.withStream handle fun name s => do
    h.checkReadable name
    match s.readLine with
    | none => .error (endOfInput name)
    | some (line, s) => return (.text (.ofPoints line), s)

/-- The kind of a value that a terminal does not take. -/
def writtenKind (v : Value) : String :=
  match v with
  | .none => "None"
  | v => v.kindName

/-- What a terminal takes: texts that have bytes, and not through its standard input. -/
def checkWritable (name : String) (text : Value) : Outcome Wording :=
  match text with
  | .text w =>
    if name = "stdin" then .error (.unsupported "not writable")
    else (w.encode.mapError .unencodable).map fun _ => w
  | v => .error (.mismatch (.writtenArgument (writtenKind v)))

def put (handle text : Value) (h : Host σ) : Outcome Value × Host σ :=
  h.withStream handle fun name s =>
    if h.isTerminal name then (checkWritable name text).map fun w => (.none, s.write w.points)
    else match text with
      | .text w => .ok (.none, s.write w.points)
      | v => .error (.mismatch (.textArgument v.kindName))

/-! ## Time -/

/-- The longest pause, in nanoseconds. -/
def pauseLimit : Float := 9223372036854775808

/-- A pause has to have a length that a clock can count. -/
def pause (microseconds : Value) : Outcome Value :=
  match microseconds.number? with
  | none => .error (.mismatch (.operands "/" microseconds.kindName "int"))
  | some n =>
    match n.div? (.int 1000000) with
    | none => .error (.overflow .quotient)
    | some seconds =>
      if seconds.isNaN then .error (.rejected .notATime)
      else if pauseLimit ≤ seconds * 1000000000 then .error (.overflow .timestamp)
      else .ok .none

/-! ## Files -/

/-- The text of a path, which is the display form of a verdict. -/
def pathWording (v : Value) : Outcome Wording :=
  match v with
  | .text w => .ok w.display
  | .bytes _ => .error (.mismatch .bytePath)
  | v => .error (.mismatch (.path v.typeName))

/-- The path that a text stands for. No path holds a null character. -/
def pathOf (w : Wording) : Outcome Path := do
  let _ ← w.encode.mapError .unencodable
  if w.contents.toList.contains (Char.ofNat 0) then .error (.rejected .nullByte)
  else return .ofText w.contents

/-- A place that a path does not lead to does not exist; any other obstacle is an error. -/
def fileExists (m : Machine σ) (path : Value) (h : Host σ) : Outcome Value := do
  match pathOf (← pathWording path) with
  | .error _ => return .bool false
  | .ok path =>
    match m.obstacle? path h.world with
    | none => return .bool true
    | some e => if e.isAbsent then return .bool false else .error (.os e path.text)

/-- The fault that stands for an error of a read. -/
def readFault (path : Value) (e : OsError) : Outcome Fault :=
  if e.isMissing then Fault.make .notFound (e.text.getD "file does not exist") path
  else Fault.make .io (e.text.getD e.name) path

/-- The fault that stands for an error of a write. -/
def writeFault (path : Value) (e : OsError) : Outcome Fault :=
  if e.isFull then Fault.make .storageFull (e.text.getD "storage is full") path
  else if e.isMissing then Fault.make .notFound (e.text.getD "directory does not exist") path
  else Fault.make .io (e.text.getD e.name) path

/-- Stops with a fault. -/
def raise {α : Type} (f : Outcome Fault) : Outcome α := do .error (.fault (← f))

def loadFile (m : Machine σ) (path : Value) (h : Host σ) : Outcome Value × Host σ :=
  andThen (h.still (pathWording path >>= pathOf)) fun p h =>
    let (result, world) := m.loadFile p h.world
    match result with
    | .ok contents => (.ok (.bytes contents), { h with world })
    | .error e => (raise (readFault path e), { h with world })

/-- What is written is looked at once the path is known to be one. -/
def saveFile (m : Machine σ) (path contents : Value) (h : Host σ) : Outcome Value × Host σ :=
  let prepared : Outcome (Path × Text.Bytes) := do
    let w ← pathWording path
    let bytes ← contents.toBytes
    return (← pathOf w, bytes)
  andThen (h.still prepared) fun (p, bytes) h =>
    let (result, world) := m.saveFile p bytes h.world
    match result with
    | .ok () => (.ok .none, { h with world })
    | .error e => (raise (writeFault path e), { h with world })

/-! ## Random numbers -/

def drawInt (m : Machine σ) (low high : Value) (h : Host σ) : Outcome Value × Host σ :=
  let (result, world) := m.randomInt low high h.world
  (result, { h with world })

/-- The bounds are put in order, then one call is made. -/
def drawBetween (m : Machine σ) (a b : Value) (h : Host σ) : Outcome Value × Host σ :=
  andThen (h.still (Value.ordered a b)) fun (low, high) h =>
    if low.isDouble || high.isDouble then
      let (result, world) := m.uniform low high h.world
      (result, { h with world })
    else h.drawInt m low high

/-! ## Requests -/

/-- The client of a request: the given one, or the host's own. -/
def clientFor (session : Value) (h : Host σ) : Outcome Nat × Host σ :=
  match session with
  | .none => (.ok h.ownClient.1, h.ownClient.2)
  | .client client => (.ok client, h)
  | v => (.error (.member v.kindName "request"), h)

def checkOpen (client : Nat) (h : Host σ) : Outcome Unit :=
  if h.isOpen client then .ok () else .error .clientClosed

/-- What is looked at before a request is sent. -/
def checkRequest (client : Nat) (asked : Url) (h : Host σ) : Outcome Unit := do
  if !(h.cookies client).isEmpty then asked.checkTyped
  asked.checkNamed
  h.checkOpen client

/-- The client keeps the cookies that an answer sets. -/
def keepCookies (m : Machine σ) (client : Nat) (asked : Url) (headers : List (String × String))
    (h : Host σ) : Host σ :=
  let (now, world) := m.now h.world
  let kept := Cookie.receive (.ofInstant now) asked headers (h.cookies client)
  { h with world }.setCookies client kept

/-- The answer as the client hands it on. An answer to a request without a scheme is not. -/
def received (m : Machine σ) (client : Nat) (asked : Url) (answer : Outcome Response)
    (h : Host σ) : Outcome Response × Host σ :=
  let unpacked : Outcome (Response × List (String × String)) := do
    let raw ← answer
    let response ← raw.delivered
    asked.checkTyped
    return (response, raw.headers)
  andThen (h.still unpacked) fun (response, headers) h =>
    let h := h.keepCookies m client asked headers
    h.still do
      response.checkRedirect asked (h.cookies client)
      return { response with url := .ofString asked.text }

/-- A failure of the transport is a failed result; any other failure is an error. -/
def resultOf (url : Value) (answer : Outcome Response) : Outcome Value :=
  match answer with
  | .ok response => .ok (.success (.response response))
  | .error (.transport e) =>
    if e.kind.isTransport then
      (Fault.make .transport (.ofString e.reason) url).map fun f => .failure (.fault f)
    else .error (.transport e)
  | .error e => .error e

def request (m : Machine σ) (r : HttpRequest) (session : Value) (h : Host σ) :
    Outcome Value × Host σ :=
  andThen (h.clientFor session) fun client h =>
    andThen (h.still r.url.address) fun url h =>
      andThen (h.still (h.checkRequest client url)) fun _ h =>
        let (answer, world) := m.send client ⟨r.method, url, r.payload⟩ h.world
        let (answer, h) := { h with world }.received m client url answer
        (resultOf r.url answer, h)

end Host

/-- Carries out one request. -/
def Request.perform {σ : Type} (m : Machine σ) (context : List Value) (r : Request)
    (h : Host σ) : Outcome Value × Host σ :=
  match r with
  | .getEcho handle => h.still (h.getEchoOf handle)
  | .setEcho handle on => h.setEchoOf handle on
  | .getChar handle => h.getChar handle
  | .getLine handle => h.getLine handle
  | .put handle text => h.put handle text
  | .flush handle => h.still ((h.stream handle).map fun _ => .none)
  | .delay microseconds => h.still (Host.pause microseconds)
  | .systemTime =>
    let (t, world) := m.now h.world
    (.ok (.instant t), { h with world })
  | .fileExists path => h.still (h.fileExists m path)
  | .loadFile path => h.loadFile m path
  | .saveFile path contents => h.saveFile m path contents
  | .randomInt => h.drawInt m (.int 0) (.int Generator.intLimit)
  | .randomBetween a b => h.drawBetween m a b
  | .http request session => h.request m request session
  | .newSession =>
    let (client, h) := h.newSession
    (.ok (.client client), h)
  | .record a => (.ok .none, { h with assertions := h.assertions ++ [a] })
  | .context => h.still ((Value.renderContext context).map .text)
  | r =>
    h.still (.error (.member Interpreter.host.name (r.simulatedOnly?.getD "")))

/-- A fault of the wanted kind becomes a failed result. -/
def Host.attempted {σ : Type} (kind : FaultKind) (step : Outcome Value × Host σ) :
    Outcome Value × Host σ :=
  match step with
  | (.ok v, h) => (.ok (.success v), h)
  | (.error (.fault f), h) =>
    if kind.covers f.kind then (.ok (.failure (.fault f)), h) else (.error (.fault f), h)
  | (.error e, h) => (.error e, h)

mutual

def Program.perform {σ : Type} (m : Machine σ) :
    Program → List Value → Host σ → Outcome Value × Host σ
  | .pure v, _, h => (.ok v, h)
  | .fail e, _, h => (.error e, h)
  | .ask r, context, h => r.perform m context h
  | .bind p next, context, h =>
    Host.andThen (p.perform m context h) fun v h => (next v).perform m context h
  | .map p change, context, h =>
    Host.andThen (p.perform m context h) fun v h => (change v, h)
  | .body b, context, h => b.perform m context h
  | .attempt p kind, context, h => Host.attempted kind (p.perform m context h)
  | .nest name p, context, h => p.perform m (context ++ [name]) h

def Body.perform {σ : Type} (m : Machine σ) :
    Body → List Value → Host σ → Outcome Value × Host σ
  | .done v, _, h => (.ok v, h)
  | .raise e, _, h => (.error e, h)
  | .yield p next, context, h =>
    Host.andThen (p.perform m context h) fun v h => (next v).perform m context h

end

/-- Runs an operand in a context; the run's assertions are those of the host afterwards. -/
def Operand.perform {σ : Type} (m : Machine σ) (o : Operand) (context : List Value)
    (h : Host σ) : Outcome Value × Host σ :=
  let fresh := { h with assertions := [] }
  match o.require .host with
  | .ok p => p.perform m context fresh
  | .error e => (.error e, fresh)

end Rehearsal
