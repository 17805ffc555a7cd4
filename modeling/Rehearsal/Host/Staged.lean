import Rehearsal.Host.Disk
import Rehearsal.Host.Machine

/-!
# Staged worlds

A world whose generator and transport take their answers from given lists, in turn, and whose
files are on a disk in memory. It notes every draw and every request that was made. From an empty
list there is no answer.
-/

namespace Rehearsal

/-- What the transport does with a request. -/
abbrev Reply := Except TransportFailure Response

structure Draw where
  uniform : Bool
  low : Value
  high : Value

structure StagedWorld where
  disk : Disk := {}
  numbers : List Int := []
  replies : List Reply := []
  /-- Draws so far, latest first. -/
  draws : List Draw := []
  /-- Requests so far with the client that sent them, latest first. -/
  requests : List (Nat × SentRequest) := []
  /-- The clock stands still at the start of November 2026. -/
  clock : Time.Instant :=
    ⟨Time.Date.toDays ⟨2026, 11, 1⟩ * Time.dayMicros, some .utc, by decide⟩

namespace StagedWorld

/-- The item for the `turn`-th use of a list that is gone through again and again. -/
def inTurn {α : Type} (turn : Nat) (items : List α) : Outcome α :=
  match items[turn % items.length]? with
  | some item => .ok item
  | none => .error (.division .integerRemainder)

/-- The number for the next draw. -/
def number (w : StagedWorld) : Outcome Int := inTurn w.draws.length w.numbers

def noteDraw (d : Draw) (w : StagedWorld) : StagedWorld := { w with draws := d :: w.draws }

/-- Moves the number into the interval. -/
def randomInt (low high : Value) (w : StagedWorld) : Outcome Value × StagedWorld :=
  let result : Outcome Value := do Value.stepBetween low high (.int (← w.number))
  (result, w.noteDraw ⟨false, low, high⟩)

/-- The thousandths of the way from one bound to the other that the number says. -/
def uniform (low high : Value) (w : StagedWorld) : Outcome Value × StagedWorld :=
  let result : Outcome Value := do
    let thousandths := Number.nearest false ((← w.number) % 1000).toNat 1000
    Value.pointBetween low high (.float thousandths)
  (result, w.noteDraw ⟨true, low, high⟩)

/-- The reply to the next request. -/
def reply (w : StagedWorld) : Outcome Response := do
  match ← inTurn w.requests.length w.replies with
  | .ok response => .ok response
  | .error e => .error (.transport e)

def send (client : Nat) (request : SentRequest) (w : StagedWorld) :
    Outcome Response × StagedWorld :=
  (w.reply, { w with requests := (client, request) :: w.requests })

def loadFile (p : Path) (w : StagedWorld) : Except OsError Text.Bytes × StagedWorld :=
  (w.disk.read p, w)

def saveFile (p : Path) (contents : Text.Bytes) (w : StagedWorld) :
    Except OsError Unit × StagedWorld :=
  match w.disk.write p contents with
  | .ok disk => (.ok (), { w with disk })
  | .error e => (.error e, w)

def machine : Machine StagedWorld where
  now w := (w.clock, w)
  randomInt := randomInt
  uniform := uniform
  send := send
  obstacle? p w := w.disk.obstacle? p
  loadFile := loadFile
  saveFile := saveFile

end StagedWorld

end Rehearsal
