import Rehearsal.Json.Basic
import Rehearsal.Generator
import Rehearsal.Text.Utf8
import Rehearsal.Time.Instant

/-!
# Settings of a simulated environment

Accepted settings, their plain form and their literal. Reading them from values, with all the
reasons for which a value is refused, is `Rehearsal.Settings.Read`.
-/

namespace Rehearsal

structure Settings where
  seed : Int := 6171
  startTime : Time.Instant := Time.Instant.julianEpoch
  tickSeconds : Float := 1
  consoleInput : List String := []
  consoleDefault : String := ""
  consoleChar : String := "y"
  echo : Bool := true
  fileExists : Bool := true
  fileFull : Bool := false
  fileInput : List Text.Bytes := []

namespace Settings

/-- The start time with its zone in minutes. -/
def startText (t : Time.Instant) : String :=
  t.dateText ++ "T" ++ t.clockText ++ (t.offset.map Time.Offset.minutesText).getD ""

/-- The failure of the first queued content that is no text. -/
def failure? (s : Settings) : Option Text.DecodeFailure :=
  s.fileInput.findSome? fun bytes =>
    match Text.decode bytes with
    | .ok _ => none
    | .error e => some e

/-- The same in the words of the writer, which does not tell reasons apart. -/
def unreadable? (s : Settings) : Option Text.DecodeFailure :=
  s.failure?.map fun e => { e with reason := .invalid }

def contentText (bytes : Text.Bytes) : String :=
  match Text.decode bytes with
  | .ok s => s
  | .error _ => ""

/-- The plain form of all fields; it is faithful when `unreadable?` finds nothing. -/
def fields (s : Settings) : List (String × Json) :=
  [("seed", .int s.seed),
   ("start_time", .text (.plain (startText s.startTime))),
   ("tick_seconds", .float s.tickSeconds),
   ("console_input", .array (s.consoleInput.map fun line => .text (.plain line))),
   ("console_default", .text s.consoleDefault),
   ("console_char", .text s.consoleChar),
   ("echo", .bool s.echo),
   ("file_exists", .bool s.fileExists),
   ("file_full", .bool s.fileFull),
   ("file_input", .array (s.fileInput.map fun bytes => .text (.plain (contentText bytes))))]

/-- Positional from `0.00001` up to sixteen digits before the point; a positive exponent has no
sign, and infinity is absent. -/
def documentLayout : Number.Layout := ⟨-4, 16, 1, "", "null", "null"⟩

/-- The text of a document with all fields in their order. -/
def documentText (s : Settings) : String :=
  let write (field : String × Json) : List Text.CodePoint :=
    Json.quote (.plain field.1) ++ .char ':' ::
      match field.2 with
      | .float x => Json.pointsOf (documentLayout.write x)
      | value => value.write
  let points := Json.bracketed '\x7b' '\x7d' (s.fields.map write)
  String.ofList (points.map Text.CodePoint.shown)

def literalParts (s : Settings) : List String :=
  let flag (b : Bool) := if b then "True" else "False"
  let listOf (parts : List String) := "[" ++ ", ".intercalate parts ++ "]"
  ["seed=" ++ toString s.seed,
   "start_time=" ++ s.startTime.literal,
   "tick_seconds=" ++ Number.text s.tickSeconds,
   "console_input=" ++ listOf (s.consoleInput.map Text.literal),
   "console_default=" ++ Text.literal s.consoleDefault,
   "console_char=" ++ Text.literal s.consoleChar,
   "echo=" ++ flag s.echo,
   "file_exists=" ++ flag s.fileExists,
   "file_full=" ++ flag s.fileFull,
   "file_input=" ++ listOf (s.fileInput.map Text.literalBytes)]

def literal (s : Settings) : String := "MockConfig(" ++ ", ".intercalate s.literalParts ++ ")"

def display (s : Settings) : String := " ".intercalate s.literalParts

/-- Field by field, times as instants and numbers as numbers. -/
def same (s t : Settings) : Bool :=
  s.seed == t.seed && s.startTime.same t.startTime && s.tickSeconds == t.tickSeconds &&
    s.consoleInput == t.consoleInput && s.consoleDefault == t.consoleDefault &&
    s.consoleChar == t.consoleChar && s.echo == t.echo && s.fileExists == t.fileExists &&
    s.fileFull == t.fileFull && s.fileInput == t.fileInput

end Settings

end Rehearsal
