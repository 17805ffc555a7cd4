import Rehearsal.Settings.StartTime
import Rehearsal.Value.Parts

/-!
# Reading settings from values

Every field has a reader of its own, which takes all the forms that stand for its values. All
fields are read before anything is refused, so that all violations are reported: first those of
the fields, in their order, then the unknown fields as they come.
-/

namespace Rehearsal.Settings

/-- What a reader refuses: the rule, and the item of a list. -/
abbrev Refused := List (Option Nat × Rule)

abbrev Reader (α : Type) := Value → Except Refused α

def refuse {α : Type} (rule : Rule) : Except Refused α := .error [(none, rule)]

/-- A text, or the rule that is broken by one with a surrogate. -/
def readWording (w : Wording) : Except Refused String :=
  match w.text? with
  | some s => .ok s
  | none => refuse .textEncoding

/-- The text of a text or of bytes; bytes that are no text break a rule. -/
def textOf? (broken : Rule) (v : Value) : Option (Except Refused String) :=
  match v with
  | .bytes bs =>
    match Text.decode bs with
    | .ok s => some (.ok s)
    | .error _ => some (refuse broken)
  | .text w => some (readWording w)
  | _ => none

def readFloatAsInt (x : Float) : Except Refused Int :=
  match Number.read x with
  | .finite d =>
    if !d.isIntegral then refuse .integerFraction
    else if d.truncate.natAbs < Nat.pow 2 63 then .ok d.truncate
    else refuse .integerSize
  | _ => refuse .finite

def readInt : Reader Int := fun v =>
  match textOf? .integerText v with
  | some (.error e) => .error e
  | some (.ok s) =>
    match readInteger s with
    | .value n => .ok n
    | .malformed => refuse .integerText
    | .tooLong => refuse .integerSize
  | none =>
    match v with
    | .float x => readFloatAsInt x
    | .nan _ => refuse .finite
    | v =>
      match v.integer? with
      | some n => .ok n
      | none => refuse .integerType

def readFloat : Reader Float := fun v =>
  match textOf? .floatText v with
  | some (.error e) => .error e
  | some (.ok s) =>
    match float? s with
    | some x => .ok x
    | none => refuse .floatText
  | none =>
    match v.number?.bind Number.toFloat? with
    | some x => .ok x
    | none => refuse .floatType

def readPositive : Reader Float := fun v => do
  let x ← readFloat v
  if 0 < x then .ok x else refuse .positive

def readBool : Reader Bool := fun v =>
  let ofInt (n : Int) : Except Refused Bool :=
    if n = 0 then .ok false
    else if n = 1 then .ok true
    else if Value.fitsWord n then refuse .boolText
    else refuse .boolType
  match textOf? .boolText v with
  | some (.error e) => .error e
  | some (.ok s) =>
    match bool? s with
    | some b => .ok b
    | none => refuse .boolText
  | none =>
    match v with
    | .bool b => .ok b
    | .int n => ofInt n
    | .float x =>
      match readFloatAsInt x with
      | .ok n => ofInt n
      | .error _ => refuse .boolType
    | _ => refuse .boolType

def readText : Reader String := fun v => (textOf? .textEncoding v).getD (refuse .textType)

/-- Exactly one character. -/
def readCharacter : Reader String := fun v => do
  let s ← readText v
  if s.length < 1 then refuse .textTooShort
  else if 1 < s.length then refuse .textTooLong
  else return s

def readContent : Reader Text.Bytes := fun v =>
  match v with
  | .bytes bs => .ok bs
  | .text w => (readWording w).map Text.encode
  | _ => refuse .bytesType

/-- Reads all items; every refusal carries the position of its item. -/
def readItems {α : Type} (reader : Reader α) : Nat → List Value → Except Refused (List α)
  | _, [] => .ok []
  | index, v :: rest =>
    match reader v, readItems reader (index + 1) rest with
    | .ok x, .ok xs => .ok (x :: xs)
    | .ok _, .error later => .error later
    | .error here, .ok _ => .error (here.map fun (_, rule) => (some index, rule))
    | .error here, .error later => .error (here.map (fun (_, rule) => (some index, rule)) ++ later)

def readList {α : Type} (reader : Reader α) : Reader (List α) := fun v =>
  match v with
  | .list xs | .tuple xs | .set xs | .frozenset xs => readItems reader 0 xs
  | _ => refuse .listType

/-- An integer past the machine word counts as a double, if there is one. -/
def readTimestamp (n : Int) : Except Refused (Except DateReason Time.Instant) :=
  if Value.fitsWord n then .ok (ofTimestamp n)
  else match Number.ofInt? n with
    | some x => .ok (ofFloatTimestamp x)
    | none => refuse .instantType

def readInstant : Reader Time.Instant := fun v => do
  let named (wrap : DateReason → Rule) :
      Except DateReason Time.Instant → Except Refused Time.Instant
    | .ok t => .ok t
    | .error .yearZero => refuse (.instantNumber .yearZero)
    | .error reason => refuse (wrap reason)
  let t ←
    match v with
    | .text w => do named .instantText (instantOfBytes (Text.encode (← readWording w)))
    | .bytes bs => named .instantText (instantOfBytes bs)
    | .instant t => .ok t
    | .int n => do named .instantNumber (← readTimestamp n)
    | .float x => named .instantNumber (ofFloatTimestamp x)
    | .nan _ => refuse (.instantNumber .notANumber)
    | _ => refuse .instantType
  if t.offset.isNone then refuse .zone else return t

/-- The value of a field and what is refused about it; a missing field has its default. -/
def readField {α : Type} (fields : List (String × Value)) (name : String) (reader : Reader α)
    (default : α) : α × List Violation :=
  match fields.find? (·.1 == name) with
  | none => (default, [])
  | some (_, v) =>
    match reader v with
    | .ok x => (x, [])
    | .error refused => (default, refused.map fun (index, rule) => ⟨name, index, rule⟩)

def fieldNames : List String :=
  ["seed", "start_time", "tick_seconds", "console_input", "console_default", "console_char",
   "echo", "file_exists", "file_full", "file_input"]

/-- Reads settings from named fields. -/
def ofFields (fields : List (String × Value)) : Except (List Violation) Settings :=
  let base : Settings := {}
  let (seed, e1) := readField fields "seed" readInt base.seed
  let (startTime, e2) := readField fields "start_time" readInstant base.startTime
  let (tickSeconds, e3) := readField fields "tick_seconds" readPositive base.tickSeconds
  let (consoleInput, e4) := readField fields "console_input" (readList readText) base.consoleInput
  let (consoleDefault, e5) := readField fields "console_default" readText base.consoleDefault
  let (consoleChar, e6) := readField fields "console_char" readCharacter base.consoleChar
  let (echo, e7) := readField fields "echo" readBool base.echo
  let (fileExists, e8) := readField fields "file_exists" readBool base.fileExists
  let (fileFull, e9) := readField fields "file_full" readBool base.fileFull
  let (fileInput, e10) := readField fields "file_input" (readList readContent) base.fileInput
  let unknown := (fields.filter fun f => !fieldNames.contains f.1).map fun f =>
    { field := f.1, rule := .unknownField : Violation }
  let violations := e1 ++ e2 ++ e3 ++ e4 ++ e5 ++ e6 ++ e7 ++ e8 ++ e9 ++ e10 ++ unknown
  if violations.isEmpty then
    .ok { seed, startTime, tickSeconds, consoleInput, consoleDefault, consoleChar, echo,
          fileExists, fileFull, fileInput }
  else .error violations

/-- Reads settings from a dictionary whose keys are names. -/
def ofValue (v : Value) : Outcome Settings := do
  match v with
  | .dict entries =>
    let fields ← entries.mapM fun (key, value) =>
      match key.wording? with
      | some name => .ok (name.contents, value)
      | none => .error (.mismatch .keyword)
    (ofFields fields).mapError .settings
  | v => .error (.mismatch (.settingsFields v.kindName))

/-- The document that the bytes of a file hold. -/
def fileDocument (content : Text.Bytes) : Outcome Json := do
  let document ← (Text.decode content).mapError .undecodable
  let unified := String.ofList (Text.unifyLineEnds document.toList)
  (Json.parseFile unified).mapError .ofDocument

/-- Reads settings from the bytes of a document, which must be an object. -/
def ofDocument (content : Text.Bytes) : Outcome Settings := do
  match ← fileDocument content with
  | .object entries => ofValue (Value.ofJson (.object entries))
  | _ => .error (.rejected .settingsDocument)

/-- The environment that starts with the settings. -/
def toEnvironment (s : Settings) (session : String) (clientLocal : Value) :
    Outcome Environment := do
  let tick ← (Time.Duration.ofSeconds s.tickSeconds).mapError .ofDuration
  return { Environment.fresh with
    session, clientLocal, tick
    consoleQueue := s.consoleInput.map .ofString
    consoleDefault := .ofString s.consoleDefault
    clock := s.startTime
    fileExists := s.fileExists
    fileFull := s.fileFull
    fileIn := s.fileInput.map .bytes
    generator := ⟨s.seed⟩
    echo := s.echo
    consoleChar := s.consoleChar }

end Rehearsal.Settings
