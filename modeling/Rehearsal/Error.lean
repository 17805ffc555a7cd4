import Rehearsal.Host.Failure
import Rehearsal.Host.Url
import Rehearsal.HttpMethod
import Rehearsal.Json.Read
import Rehearsal.Settings.Violation
import Rehearsal.Time.Duration
import Rehearsal.Value.Literal

/-!
# Errors

The causes for which building or running a program stops, in groups: a value of the wrong kind, a
value that is not allowed, a number out of range, a division by zero, and what documents,
settings, schemas, files and requests report. A fault is an error only on a host.
-/

namespace Rehearsal

/-- The two ways of carrying out a program. -/
inductive Interpreter where
  | simulated
  | host
deriving DecidableEq, Repr

namespace Interpreter

/-- The kind of computation that an interpreter runs. -/
def computationName : Interpreter → String
  | simulated => "MockIO"
  | host => "RealIO"

def name : Interpreter → String
  | simulated => "MockInterpreter"
  | host => "RealInterpreter"

def other : Interpreter → Interpreter
  | simulated => host
  | host => simulated

end Interpreter

/-- A value of the wrong kind; `found` and the like are names of kinds. -/
inductive Mismatch where
  | computation (found : String) (interpreter : Interpreter)
  | treeNode (found : String)
  | assertion
  | fault
  | statement
  | field (name : String)
  | verdict
  | answer (method : HttpMethod)
  | iteration (found : String)
  | container (found : String)
  | mapping (found : String)
  | settingsFields (found : String)
  | keyword
  | subscript (found : String)
  | index (container found : String)
  | textIndex (found : String)
  | length (found : String)
  | integer (found : String)
  | encoding
  | byteForm (found : String)
  | operands (operator left right : String)
  | concatenation (kind found : String)
  | bytesConcatenation (found : String)
  | ordering (operator left right : String)
  | zones
  | hashing (found : String)
  | textArgument (found : String)
  | writtenArgument (found : String)
  /-- An item of a sequence that is joined. -/
  | joined (index : Nat) (found : String)
  | subtrahendZones
  /-- A template that has no place for a value. -/
  | formatting
  | byteFormatting
  /-- A template that has more places than there are values. -/
  | formattedValues
  | formattedMapping
  | formattedBytes
  | path (found : String)
  | bytePath
  | url (found literal : String)
  | pattern
  | bytePattern
  | substring (found : String)
  | byteOperand (found : String)
  | record
  | recordField (kind field : String)
deriving DecidableEq, Repr

def quoted (name : String) : String := "'" ++ name ++ "'"

def Mismatch.message : Mismatch → String
  | computation found interpreter =>
    "effectful body yielded " ++ found ++ ", expected " ++ interpreter.computationName
  | treeNode found => "not a test tree node: " ++ found
  | assertion => "record expects an Assertion"
  | fault => "throw expects an EffectFault"
  | statement => "statement and comment must be strings"
  | field name => name ++ " must be a string"
  | verdict => "result must be an AssertionResult"
  | answer method => method.name ++ " handler must return Success or Failure"
  | iteration found => quoted found ++ " object is not iterable"
  | container found => "argument of type " ++ quoted found ++ " is not iterable"
  | mapping found => quoted found ++ " object is not a mapping"
  | settingsFields found =>
    "effectsim.config.MockConfig() argument after ** must be a mapping, not " ++ found
  | keyword => "keywords must be strings"
  | subscript found => quoted found ++ " object is not subscriptable"
  | index kind found => kind ++ " indices must be integers or slices, not " ++ found
  | textIndex found => "string indices must be integers, not " ++ quoted found
  | length found => "object of type " ++ quoted found ++ " has no len()"
  | integer found => quoted found ++ " object cannot be interpreted as an integer"
  | encoding => "string argument without an encoding"
  | byteForm found => "cannot convert " ++ quoted found ++ " object to bytes"
  | operands operator left right =>
    "unsupported operand type(s) for " ++ operator ++ ": " ++ quoted left ++ " and " ++ quoted right
  | concatenation kind found =>
    "can only concatenate " ++ kind ++ " (not \"" ++ found ++ "\") to " ++ kind
  | bytesConcatenation found => "can't concat " ++ found ++ " to bytes"
  | ordering operator left right =>
    quoted operator ++ " not supported between instances of " ++ quoted left ++ " and " ++
      quoted right
  | zones => "can't compare offset-naive and offset-aware datetimes"
  | hashing found => "unhashable type: " ++ quoted found
  | textArgument found => "string argument expected, got " ++ quoted found
  | writtenArgument found => "write() argument must be str, not " ++ found
  | joined place found =>
    "sequence item " ++ toString place ++ ": expected str instance, " ++ found ++ " found"
  | subtrahendZones => "can't subtract offset-naive and offset-aware datetimes"
  | formatting => "not all arguments converted during string formatting"
  | byteFormatting => "not all arguments converted during bytes formatting"
  | formattedValues => "not enough arguments for format string"
  | formattedMapping => "format requires a mapping"
  | formattedBytes =>
    "%b requires a bytes-like object, or an object that implements __bytes__, not 'int'"
  | path found => "expected str, bytes or os.PathLike object, not " ++ found
  | bytePath =>
    "argument should be a str object or an os.PathLike object returning str, not <class 'bytes'>"
  | url found literal =>
    "Invalid type for url.  Expected str or httpx.URL, got <class " ++ quoted found ++ ">: " ++
      literal
  | pattern => "first argument must be string or compiled pattern"
  | bytePattern => "cannot use a bytes pattern on a string-like object"
  | byteOperand found => "a bytes-like object is required, not " ++ quoted found
  | substring found => "'in <string>' requires string as left operand, not " ++ found
  | record => "replace() should be called on dataclass instances"
  | recordField kind name =>
    kind ++ ".__init__() got an unexpected keyword argument " ++ quoted name

/-- A value of the right kind that is not allowed. -/
inductive Rejection where
  | oneCharacter
  | delay
  | handle (name : String)
  | byteRange
  | byteNumber
  | byteCount
  | drawCount
  | summaryCount
  | nullByte
  | settingsDocument
  | notANumber
  | notATime
  | notARatio
  /-- A place of a template that has no end. -/
  | incompleteFormat
  /-- A letter that ends no place of a template, its number, and where it stands. -/
  | formatLetter (shown : Char) (number place : Nat)
  /-- A byte that ends no place and is no character. -/
  | formatByte
  | formatWidth
  | formatPrecision (name : String)
  /-- An address that does not start with the name of a scheme. -/
  | untyped (url : String)
  /-- An integer with too many digits to be written. -/
  | longNumber
  /-- An integer with too many digits to be read. -/
  | longNumeral (count : Nat)
deriving DecidableEq, Repr

def Rejection.message : Rejection → String
  | oneCharacter => "put_char expects a single character"
  | delay => "microseconds must be >= 0"
  | handle name => "unknown handle: " ++ name
  | byteRange => "bytes must be in range(0, 256)"
  | byteNumber => "byte must be in range(0, 256)"
  | byteCount => "negative count"
  | drawCount => "count must be >= 0"
  | summaryCount => "counts must be >= 0"
  | nullByte => "embedded null byte"
  | settingsDocument => "mock config must be a JSON object"
  | notANumber => "cannot convert float NaN to integer"
  | notATime => "Invalid value NaN (not a number)"
  | notARatio => "cannot convert NaN to integer ratio"
  | incompleteFormat => "incomplete format"
  | formatLetter shown number place =>
    "unsupported format character " ++ quoted shown.toString ++ " (0x" ++
      String.ofList (Nat.toDigits 16 number) ++ ") at index " ++ toString place
  | formatByte => ""
  | formatWidth => "width too big"
  | formatPrecision name => name ++ " too big"
  | untyped url => "unknown url type: " ++ Text.literal url
  | longNumber =>
    "Exceeds the limit (4300 digits) for integer string conversion; use " ++
      "sys.set_int_max_str_digits() to increase the limit"
  | longNumeral count =>
    "Exceeds the limit (4300 digits) for integer string conversion: value has " ++
      toString count ++ " digits; use sys.set_int_max_str_digits() to increase the limit"

/-- A number out of range. -/
inductive Overflow where
  | date
  | days (count : Int)
  | machineInteger
  | float
  | infinity
  | ratio
  | size
  | byteString
  | quotient
  | timestamp
deriving DecidableEq, Repr

def Overflow.message : Overflow → String
  | date => "date value out of range"
  | days count => "days=" ++ toString count ++ "; must have magnitude <= 999999999"
  | machineInteger => "Python int too large to convert to C int"
  | float => "int too large to convert to float"
  | infinity => "cannot convert float infinity to integer"
  | ratio => "cannot convert Infinity to integer ratio"
  | size => "cannot fit 'int' into an index-sized integer"
  | byteString => "byte string is too large"
  | quotient => "integer division result too large for a float"
  | timestamp => "timestamp too large to convert to C _PyTime_t"

/-- The operation that was to divide by zero. -/
inductive Division where
  | integerRemainder
  | floatRemainder
  | floatQuotient
deriving DecidableEq, Repr

def Division.message : Division → String
  | integerRemainder => "integer modulo by zero"
  | floatRemainder => "float modulo"
  | floatQuotient => "float division by zero"

inductive Error where
  | fault (f : Fault)
  | mismatch (m : Mismatch)
  | rejected (r : Rejection)
  | overflow (o : Overflow)
  | division (d : Division)
  | member (found name : String)
  /-- No entry of that key, given by its literal. -/
  | key (literal : String)
  /-- No item at that position; `subject` names what is out of range. -/
  | position (subject : String)
  /-- A position that no machine word holds. -/
  | positionSize
  /-- There is no room for a value. -/
  | memory
  | undecodable (f : Text.DecodeFailure)
  /-- Bytes that are no text where a document is written. -/
  | unwritable (f : Text.DecodeFailure)
  | unencodable (f : Text.EncodeFailure)
  /-- A character of a header or of a host that is not in ASCII. -/
  | notAscii (f : Text.EncodeFailure)
  | document (f : Json.SyntaxFailure)
  | settings (violations : List Settings.Violation)
  /-- A schema that names a type that there is not; the schema and the instance by the lines of
  their literals. -/
  | unknownType (name : String) (schema instance_ : List String)
  | os (e : OsError) (path : String)
  | clientClosed
  | invalidUrl (f : UrlFailure)
  | hostName (f : HostNameFailure)
  | transport (f : TransportFailure)
  /-- A stream that cannot be used in that way. -/
  | unsupported (use : String)

namespace Error

def ofDuration : Time.DurationFailure → Error
  | .notANumber => rejected .notANumber
  | .infinite => overflow .infinity
  | .tooLong days =>
    if -2147483648 ≤ days ∧ days ≤ 2147483647 then overflow (.days days)
    else overflow .machineInteger

def ofDocument : Json.Failure → Error
  | .malformed f => document f
  | .tooManyDigits count => rejected (.longNumeral count)

/-- Lines moved to the right. -/
def indented (lines : List String) : String := "\n".intercalate (lines.map ("    " ++ ·))

/-- The words of every cause but a fault. -/
def words : Error → String
  | fault f => f.literal
  | mismatch m => m.message
  | rejected r => r.message
  | overflow o => o.message
  | division d => d.message
  | member found name => quoted found ++ " object has no attribute " ++ quoted name
  | key literal => literal
  | position subject => subject ++ " out of range"
  | positionSize => Overflow.size.message
  | memory => ""
  | undecodable f => f.message
  | unwritable f => "Error serializing to JSON: " ++ f.writerMessage
  | unencodable f => f.message
  | notAscii f => f.asciiMessage
  | document f => f.message
  | settings violations => toString violations.length ++ " violations"
  | unknownType name schema instance_ =>
    "Unknown type " ++ name ++ " for validator with schema:\n" ++ indented schema ++
      "\n\nWhile checking instance:\n" ++ indented instance_
  | os e path =>
    "[Errno " ++ toString e.code ++ "] " ++ e.text.getD "None" ++ ": " ++ Text.literal path
  | clientClosed => "Cannot send a request, as the client has been closed."
  | invalidUrl f => f.message
  | hostName f => f.message
  | transport f => f.message
  | unsupported use => use

/-- A fault shows itself. -/
def message : Error → Wording
  | fault f => f.display
  | e => e.words

end Error

/-- What can stop with an error. -/
abbrev Outcome (α : Type) := Except Error α

namespace Value

/-- The literal, unless it would hold an integer that is too long. -/
def shown (v : Value) : Outcome String :=
  if v.holdsLong then .error (.rejected .longNumber) else .ok v.literal

/-- The form inside other text, unless it would hold an integer that is too long. -/
def displayed (v : Value) : Outcome Wording :=
  match v with
  | .text w => .ok w.display
  | .exception s _ => .ok s
  | v => if v.holdsLong then .error (.rejected .longNumber) else .ok v.display

end Value

/-- A fault whose text can be written. -/
def Fault.make (kind : FaultKind) (message path : Value) : Outcome Fault :=
  let f : Fault := ⟨kind, message, path⟩
  if f.holdsLong then .error (.rejected .longNumber) else .ok f

end Rehearsal
