import Rehearsal.Text.Blank
import Rehearsal.Value.Order

/-!
# Parts of values

What a value is made of when it is iterated, its byte form, its length, its members, and the pieces
between the blanks of a text.
-/

namespace Rehearsal

/-- The fields of settings with their names, in order. -/
def Settings.entries (s : Settings) : List (String × Value) :=
  [("seed", .int s.seed), ("start_time", .instant s.startTime),
   ("tick_seconds", .ofFloat [] s.tickSeconds),
   ("console_input", .list (s.consoleInput.map .ofString)),
   ("console_default", .ofString s.consoleDefault), ("console_char", .ofString s.consoleChar),
   ("echo", .bool s.echo), ("file_exists", .bool s.fileExists), ("file_full", .bool s.fileFull),
   ("file_input", .list (s.fileInput.map .bytes))]

namespace Value

/-- The parts that iteration gives: characters, bytes, items, keys, or named fields. -/
def elements (v : Value) : Outcome (List Value) :=
  match v with
  | text w => .ok (w.characters.map text)
  | bytes bs => .ok (bs.map fun b => int b.toNat)
  | list xs | tuple xs | set xs | frozenset xs => .ok xs
  | dict es => .ok (es.map (·.1))
  | settings s => .ok (s.entries.map fun (name, v) => tuple [ofString name, v])
  | v => .error (.mismatch (.iteration v.kindName))

def toByte (v : Value) : Outcome UInt8 :=
  match v.integer? with
  | Option.none => .error (.mismatch (.integer v.kindName))
  | some n =>
    if 0 ≤ n ∧ n < 256 then .ok (UInt8.ofNat n.toNat) else .error (.rejected .byteRange)

/-- Whether a machine word holds the number. -/
def fitsWord (n : Int) : Bool :=
  decide (-9223372036854775808 ≤ n) && decide (n ≤ 9223372036854775807)

/-- The longest byte string that there is room for. -/
def byteRoom : Nat := Nat.pow 2 33

/-- The longest byte string whose length and header fit in a machine word. -/
def byteLimit : Nat := Nat.pow 2 63 - 34

/-- As many zero bytes as a number says. -/
def zeroBytes (n : Int) : Outcome Text.Bytes :=
  if !fitsWord n then .error (.overflow .size)
  else if n < 0 then .error (.rejected .byteCount)
  else if byteLimit < n.toNat then .error (.overflow .byteString)
  else if byteRoom < n.toNat then .error .memory
  else .ok (List.replicate n.toNat 0)

/-- The byte form: a count stands for as many zero bytes, other containers for their elements. -/
def toBytes (v : Value) : Outcome Text.Bytes :=
  match v with
  | bytes bs => .ok bs
  | text _ => .error (.mismatch .encoding)
  | list _ | tuple _ | set _ | frozenset _ | dict _ | settings _ => do
    (← v.elements).mapM toByte
  | v =>
    match v.integer? with
    | some n => zeroBytes n
    | Option.none => .error (.mismatch (.byteForm v.kindName))

def length (v : Value) : Outcome Nat :=
  match v with
  | text w => .ok w.length
  | bytes bs => .ok bs.length
  | list xs | tuple xs | set xs | frozenset xs => .ok xs.length
  | dict es => .ok es.length
  | v => .error (.mismatch (.length v.kindName))

/-- The item at a position, counted from the end if negative. -/
def itemAt (subject : String) (xs : List Value) (n : Int) : Outcome Value :=
  let position := if n < 0 then n + xs.length else n
  if !fitsWord n then .error .positionSize
  else if position < 0 then .error (.position subject)
  else match xs[position.toNat]? with
    | some x => .ok x
    | Option.none => .error (.position subject)

/-- The error of a key that a dictionary does not have. -/
def missingKey (key : Value) : Outcome Value := do .error (.key (← key.shown))

/-- A member: the value of a key, or the item at a position. -/
def item (container key : Value) : Outcome Value :=
  let within (subject : String) (wrong : Mismatch) (xs : List Value) : Outcome Value :=
    match key.integer? with
    | some n => itemAt subject xs n
    | Option.none => .error (.mismatch wrong)
  match container with
  | dict es =>
    match key.unhashable?, lookup key es with
    | some kind, _ => .error (.mismatch (.hashing kind))
    | Option.none, some v => .ok v
    | Option.none, Option.none => missingKey key
  | list xs => within "list index" (.index "list" key.kindName) xs
  | tuple xs => within "tuple index" (.index "tuple" key.kindName) xs
  | text w => within "string index" (.textIndex key.kindName) (w.characters.map text)
  | bytes bs => within "index" (.index "byte" key.kindName) (bs.map fun b => int b.toNat)
  | v => .error (.mismatch (.subscript v.kindName))

/-- Whether a text occurs in another one; only texts do. -/
def occursInText (key : Value) (w : Wording) : Outcome Bool :=
  match key with
  | text part =>
    let starts := List.range (w.points.length + 1)
    .ok (starts.any fun place => part.points.isPrefixOf (w.points.drop place))
  | v => .error (.mismatch (.substring v.kindName))

/-- Whether a value can be a key or a member of a set. -/
def hashable (v : Value) : Outcome Unit :=
  match v.unhashable? with
  | some kind => .error (.mismatch (.hashing kind))
  | Option.none => .ok ()

/-- Whether a byte string holds a byte, given by its number, or another byte string. -/
def occursInBytes (key : Value) (bs : Text.Bytes) : Outcome Bool :=
  match key with
  | bytes part =>
    .ok ((List.range (bs.length + 1)).any fun place => part.isPrefixOf (bs.drop place))
  | v =>
    match v.integer? with
    | some n =>
      if 0 ≤ n ∧ n < 256 then .ok (bs.any fun b => Int.ofNat b.toNat == n)
      else .error (.rejected .byteNumber)
    | Option.none => .error (.mismatch (.byteOperand v.kindName))

/-- Whether a container holds a key, an item or a piece of text. A set is looked for in another one
by its members. -/
def holds (container key : Value) : Outcome Bool :=
  match container, key with
  | dict es, key => do
    key.hashable
    return (lookup key es).isSome
  | set xs, set _ | frozenset xs, set _ => .ok (xs.any key.alike)
  | set xs, key | frozenset xs, key => do
    key.hashable
    return xs.any key.alike
  | text w, key => key.occursInText w
  | bytes bs, key => key.occursInBytes bs
  | list _, key | tuple _, key | settings _, key => do
    return (← container.elements).any key.alike
  | v, _ => .error (.mismatch (.container v.kindName))

/-- The first item that is no text, with its place. -/
def strayItem? (place : Nat) : List Value → Option Mismatch
  | [] => Option.none
  | text _ :: rest => strayItem? (place + 1) rest
  | v :: _ => some (.joined place v.kindName)

/-- Joins texts with another one between any two of them. -/
def joined (separator : String) (items : List Value) : Outcome Wording :=
  match strayItem? 0 items with
  | some m => .error (.mismatch m)
  | Option.none => .ok (.intercalate separator (items.filterMap wording?))

/-- The labels in force, from the outermost one on. -/
def renderContext (context : List Value) : Outcome Wording := joined "/" context

/-- The name of a handle or of a verdict. -/
def name (v : Value) : Outcome String :=
  match v with
  | handle h => .ok h.name
  | text (.verdict w) => .ok w.label
  | v => .error (.member v.kindName "name")

/-- The runs of items between those that are blank. -/
def pieces {α : Type} (blank : α → Bool) : List α → List α → List (List α)
  | [], [] => []
  | done, [] => [done.reverse]
  | done, x :: rest =>
    if blank x then
      if done.isEmpty then pieces blank [] rest else done.reverse :: pieces blank [] rest
    else pieces blank (x :: done) rest

def isBlankPoint : Text.CodePoint → Bool
  | .char c => Text.isSpace c
  | .surrogate _ => false

def isBlankByte (b : UInt8) : Bool :=
  decide (9 ≤ b.toNat) && decide (b.toNat ≤ 13) || b.toNat == 32

/-- The pieces of a text or a byte string. -/
def split (v : Value) : Outcome Value :=
  match v with
  | text w => .ok (list ((pieces isBlankPoint [] w.points).map fun p => text (.ofPoints p)))
  | bytes bs => .ok (list ((pieces isBlankByte [] bs).map bytes))
  | v => .error (.member v.kindName "split")

end Value

end Rehearsal
