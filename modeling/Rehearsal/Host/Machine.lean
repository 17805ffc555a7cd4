import Rehearsal.Host.Client
import Rehearsal.Host.Path
import Rehearsal.Host.Stream
import Rehearsal.Value.Draw
import Rehearsal.Value.Parts

/-!
# Machines and hosts

A machine is the set of calls that a host makes to the world outside: clock, generator, transport
and file system. A host adds what the interpreter itself keeps: streams, echo flags and
HTTP clients, which are numbered in the order in which they are made.
-/

namespace Rehearsal

/-- Calls to a world with states in `σ`. -/
structure Machine (σ : Type) where
  now : σ → Time.Instant × σ
  /-- A value whole steps above the first bound, which is not greater than the second one. -/
  randomInt : Value → Value → σ → Outcome Value × σ
  /-- A point between two bounds, of which one is a double. -/
  uniform : Value → Value → σ → Outcome Value × σ
  /-- Sends a request through a client; the answer is as it comes from the transport. -/
  send : Nat → SentRequest → σ → Outcome Response × σ
  /-- The obstacle on the way to an existing file or directory. -/
  obstacle? : Path → σ → Option OsError
  loadFile : Path → σ → Except OsError Text.Bytes × σ
  saveFile : Path → Text.Bytes → σ → Except OsError Unit × σ

structure Host (σ : Type) where
  world : σ
  stdin : Stream := {}
  stdout : Stream := {}
  stderr : Stream := {}
  /-- Echo flags that were set, by the name of their handle. -/
  echo : List (String × Bool) := []
  /-- The handles that are attached to the terminal. -/
  terminals : List String := []
  terminalEcho : Bool := true
  /-- The clients made so far, by their numbers. -/
  clients : List Client := []
  defaultClient : Option Nat := none
  sessions : List Nat := []
  /-- The assertions of the current run. -/
  assertions : List Assertion := []

namespace Host

variable {σ : Type}

def stream? (name : String) (h : Host σ) : Option Stream :=
  if name = "stdin" then some h.stdin
  else if name = "stdout" then some h.stdout
  else if name = "stderr" then some h.stderr
  else none

def setStream (name : String) (s : Stream) (h : Host σ) : Host σ :=
  if name = "stdin" then { h with stdin := s }
  else if name = "stdout" then { h with stdout := s }
  else if name = "stderr" then { h with stderr := s }
  else h

def isTerminal (name : String) (h : Host σ) : Bool := h.terminals.contains name

def getEcho (name : String) (h : Host σ) : Bool :=
  if h.isTerminal name then h.terminalEcho
  else ((h.echo.find? fun e => e.1 == name).map (·.2)).getD true

/-- The flag of a terminal is shared by all handles attached to it. -/
def setEcho (name : String) (on : Bool) (h : Host σ) : Host σ :=
  let shared := if h.isTerminal name then on else h.terminalEcho
  { h with terminalEcho := shared, echo := (name, on) :: h.echo }

/-- Makes a client, which starts open. -/
def makeClient (h : Host σ) : Nat × Host σ :=
  (h.clients.length, { h with clients := h.clients ++ [{}] })

/-- Makes a client that is handed out as a session. -/
def newSession (h : Host σ) : Nat × Host σ :=
  let (client, h) := h.makeClient
  (client, { h with sessions := h.sessions ++ [client] })

/-- The default client, which is made when it is first needed. -/
def ownClient (h : Host σ) : Nat × Host σ :=
  match h.defaultClient with
  | some client => (client, h)
  | none =>
    let (client, h) := h.makeClient
    (client, { h with defaultClient := some client })

def isOpen (client : Nat) (h : Host σ) : Bool := h.clients[client]?.any (·.isOpen)

def closeClient (h : Host σ) (client : Nat) : Host σ :=
  { h with clients := h.clients.modify client fun c => { c with isOpen := false } }

/-- The cookies that a client keeps. -/
def cookies (client : Nat) (h : Host σ) : List Cookie :=
  (h.clients[client]?.map (·.cookies)).getD []

def setCookies (client : Nat) (cookies : List Cookie) (h : Host σ) : Host σ :=
  { h with clients := h.clients.modify client fun c => { c with cookies } }

/-- Closes every session and the default client. -/
def close (h : Host σ) : Host σ :=
  let closed := h.sessions.foldl closeClient h
  let closed := (h.defaultClient.map closed.closeClient).getD closed
  { closed with sessions := [], defaultClient := none }

/-- Attaches a client that was made elsewhere as the default one. -/
def withDefaultClient (h : Host σ) : Host σ :=
  let (client, h) := h.makeClient
  { h with defaultClient := some client }

end Host

end Rehearsal
