import TemplateCalls.Decimal
import TemplateCalls.Text.Quoted

/-!
# Readers of YAML

A reader turns a text into the document that it holds, or tells why it cannot. A text is malformed
when it is not one YAML document of the known tags. Some texts have the form of a document and yet
hold a scalar that denotes nothing: a number without digits, a day that no month has, an escape
beyond the last code point. Each of these is a cause of its own. A text is given up when it is
nested too deeply or when a node of it stands for itself.

Of a document it is known whether it is blank, and the pairs of a mapping as raw values. A setting is
wanted as text; a raw value may be text, which may hold surrogates, bytes that may or may not be the
encoding of a text, or a value of another type.
-/

namespace TemplateCalls

inductive RawValue where
  | text (value : CodeText)
  | bytes (values : List UInt8)
  | other
  deriving DecidableEq, Repr

def RawValue.isText : RawValue → Bool
  | .text _ => true
  | .bytes _ | .other => false

namespace Yaml

/-! ## Documents -/

/-- The value of a document: none or one that is blank, a mapping, or something else. -/
inductive Document where
  | blank
  | mapping (pairs : List (RawValue × RawValue))
  | other
  deriving DecidableEq, Repr

/-! ## Faults -/

inductive Fault where
  | malformed
  | givenUp
  | escapeBeyondUnicode
  | escapeBeyondMachine
  | numeral (overflow : Decimal.Overflow)
  | notInteger (base : Nat) (text : CodeText)
  | noDigits
  | notFloat (text : CodeText)
  | placeBeyondFloat
  | notBoolean (text : CodeText)
  | notMoment
  | momentOfMapping
  | yearOutOfRange (year : Nat)
  | monthOutOfRange
  | dayOutOfRange
  | hourOutOfRange
  | minuteOutOfRange
  | secondOutOfRange
  | offsetOutOfRange (minutes : Int)
  deriving DecidableEq, Repr

/-- A stretch of time in days and seconds, the seconds non-negative and less than a day. -/
def showDuration (minutes : Int) : String :=
  let days := Int.fdiv minutes 1440
  let seconds := Int.fmod minutes 1440 * 60
  let parts := (if days != 0 then ["days=" ++ toString days] else [])
    ++ (if seconds != 0 then ["seconds=" ++ toString seconds] else [])
  "datetime.timedelta(" ++ (if parts.isEmpty then "0" else ", ".intercalate parts) ++ ")"

def Fault.message : Fault → String
  | .malformed => "the text is not one YAML document"
  | .givenUp => "maximum recursion depth exceeded"
  | .escapeBeyondUnicode => "chr() arg not in range(0x110000)"
  | .escapeBeyondMachine => "Python int too large to convert to C int"
  | .numeral overflow => overflow.message
  | .notInteger base text =>
    "invalid literal for int() with base " ++ base.repr ++ ": "
      ++ .ofList (text.quote.toList.take 200)
  | .noDigits => "string index out of range"
  | .notFloat text => "could not convert string to float: " ++ text.quote
  | .placeBeyondFloat => "int too large to convert to float"
  | .notBoolean text => text.quote
  | .notMoment => "'NoneType' object has no attribute 'groupdict'"
  | .momentOfMapping => "expected string or bytes-like object, got 'list'"
  | .yearOutOfRange year => "year " ++ year.repr ++ " is out of range"
  | .monthOutOfRange => "month must be in 1..12"
  | .dayOutOfRange => "day is out of range for month"
  | .hourOutOfRange => "hour must be in 0..23"
  | .minuteOutOfRange => "minute must be in 0..59"
  | .secondOutOfRange => "second must be in 0..59"
  | .offsetOutOfRange minutes =>
    "offset must be a timedelta strictly between -timedelta(hours=24) and timedelta(hours=24), not "
      ++ showDuration minutes ++ "."

/-- A reader of texts whose line ends are line feeds. -/
abbrev Reader := List Char → Except Fault Document

end Yaml

end TemplateCalls
