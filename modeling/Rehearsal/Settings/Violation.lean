/-!
# Violations of settings

Why a value is refused, in a short kind and a sentence.
-/

namespace Rehearsal.Settings

/-- Why a text does not start with a date, or does not end with it. -/
inductive DateReason where
  | tooShort
  | year
  | separator
  | month
  | day
  | monthRange
  | dayRange
  | extra
  | tooLarge
  | tooSmall
  | notANumber
  | yearZero
deriving DecidableEq, Repr

def DateReason.text : DateReason → String
  | tooShort => "input is too short"
  | year => "invalid character in year"
  | separator => "invalid date separator, expected \x60-\x60"
  | month => "invalid character in month"
  | day => "invalid character in day"
  | monthRange => "month value is outside expected range of 1-12"
  | dayRange => "day value is outside expected range"
  | extra => "unexpected extra characters at the end of the input"
  | tooLarge => "dates after 9999 are not supported as unix timestamps"
  | tooSmall => "dates before 0000 are not supported as unix timestamps"
  | notANumber => "NaN values not permitted"
  | yearZero => "year 0 is out of range"

inductive Rule where
  | integerType
  | integerFraction
  | integerText
  | integerSize
  | finite
  | floatType
  | floatText
  | positive
  | boolType
  | boolText
  | textType
  | textEncoding
  | textTooShort
  | textTooLong
  | listType
  | bytesType
  | instantType
  | instantText (reason : DateReason)
  | instantNumber (reason : DateReason)
  | zone
  | unknownField
deriving DecidableEq, Repr

namespace Rule

def kind : Rule → String
  | integerType => "int_type"
  | integerFraction => "int_from_float"
  | integerText => "int_parsing"
  | integerSize => "int_parsing_size"
  | finite => "finite_number"
  | floatType => "float_type"
  | floatText => "float_parsing"
  | positive => "greater_than"
  | boolType => "bool_type"
  | boolText => "bool_parsing"
  | textType => "string_type"
  | textEncoding => "string_unicode"
  | textTooShort => "string_too_short"
  | textTooLong => "string_too_long"
  | listType => "list_type"
  | bytesType => "bytes_type"
  | instantType => "datetime_type"
  | instantText _ => "datetime_from_date_parsing"
  | instantNumber _ => "datetime_parsing"
  | zone => "value_error"
  | unknownField => "extra_forbidden"

def message : Rule → String
  | integerType => "Input should be a valid integer"
  | integerFraction =>
    "Input should be a valid integer, got a number with a fractional part"
  | integerText => "Input should be a valid integer, unable to parse string as an integer"
  | integerSize => "Unable to parse input string as an integer, exceeded maximum size"
  | finite => "Input should be a finite number"
  | floatType => "Input should be a valid number"
  | floatText => "Input should be a valid number, unable to parse string as a number"
  | positive => "Input should be greater than 0"
  | boolType => "Input should be a valid boolean"
  | boolText => "Input should be a valid boolean, unable to interpret input"
  | textType => "Input should be a valid string"
  | textEncoding =>
    "Input should be a valid string, unable to parse raw data as a unicode string"
  | textTooShort => "String should have at least 1 character"
  | textTooLong => "String should have at most 1 character"
  | listType => "Input should be a valid list"
  | bytesType => "Input should be a valid bytes"
  | instantType => "Input should be a valid datetime"
  | instantText reason => "Input should be a valid datetime or date, " ++ reason.text
  | instantNumber reason => "Input should be a valid datetime, " ++ reason.text
  | zone => "Value error, start_time must carry a timezone"
  | unknownField => "Extra inputs are not permitted"

end Rule

/-- A field, or an item of a field, that breaks a rule. -/
structure Violation where
  field : String
  index : Option Nat := none
  rule : Rule
deriving DecidableEq, Repr

end Rehearsal.Settings
