/-!
# Decimal numerals

Non-negative integers are written in ASCII digits without leading zeros and read with any number of
them. Neither direction handles more than 4300 digits; a numeral that is read counts its leading
zeros too.
-/

namespace TemplateCalls.Decimal

/-- The most digits a numeral may have. -/
def digitLimit : Nat := 4300

/-- Why a numeral is refused: it has too many digits to be read, or it would have too many when
written. -/
inductive Overflow where
  | reading (digits : Nat)
  | writing
  deriving DecidableEq, Repr

def Overflow.message : Overflow → String
  | .reading digits =>
    "Exceeds the limit (" ++ digitLimit.repr ++ " digits) for integer string conversion: value has "
      ++ digits.repr ++ " digits; use sys.set_int_max_str_digits() to increase the limit"
  | .writing =>
    "Exceeds the limit (" ++ digitLimit.repr ++ " digits) for integer string conversion; "
      ++ "use sys.set_int_max_str_digits() to increase the limit"

def isNumeral (text : List Char) : Bool := !text.isEmpty && text.all Char.isDigit

/-- The number that a run of ASCII digits denotes. -/
def value (digits : List Char) : Nat := Nat.ofDigitChars 10 digits 0

def digits (number : Nat) : List Char := Nat.toDigits 10 number

def read (digits : List Char) : Except Overflow Nat :=
  if digits.length ≤ digitLimit then .ok (value digits) else .error (.reading digits.length)

def write (number : Nat) : Except Overflow String :=
  if (digits number).length ≤ digitLimit then .ok (.ofList (digits number)) else .error .writing

/-- A negative integer is written as a minus sign and its distance from zero. -/
def writeInt : Int → Except Overflow String
  | .ofNat number => write number
  | .negSucc number => (write (number + 1)).map ("-" ++ ·)

end TemplateCalls.Decimal
