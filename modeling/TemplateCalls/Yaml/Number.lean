import TemplateCalls.Text.LetterCase
import TemplateCalls.Yaml.Reader

/-!
# Numbers in a YAML text

A scalar of a number type is read with its underscores left out. Integers are binary, hexadecimal,
octal or sexagesimal by their form, and otherwise decimal. Of a float it only matters later whether
it is zero. The digits of a decimal number may be those of any script.

A finite float of 64 bits is a multiple of the least positive one, and has at most 53 binary digits
from its first to its last one. Whatever is not finite is beyond the range, where it does not matter
how it came there: no sum or multiple of it is finite.
-/

namespace TemplateCalls.Yaml

inductive BinaryFloat where
  | finite (multiple : Int)
  | infinite
  deriving DecidableEq, Repr

namespace BinaryFloat

/-- The most binary digits of a float. -/
def precision : Nat := 53

/-- The least positive float is two to the minus this. -/
def leastExponent : Nat := 1074

/-- The multiples of the least positive float that are beyond the range have more digits than
this. -/
def longest : Nat := 1024 + leastExponent

def zero : BinaryFloat := .finite 0

/-- The nearest integer to a quotient; of two, the even one. -/
def roundQuotient (numerator denominator : Nat) : Nat :=
  let quotient := numerator / denominator
  let twice := 2 * (numerator % denominator)
  if twice < denominator || (twice == denominator && quotient % 2 == 0) then quotient
  else quotient + 1

/-- The nearest number of the precision to a quotient. -/
def roundToPrecision (numerator denominator : Nat) : Nat :=
  let excess := (numerator / denominator).log2 + 1 - precision
  roundQuotient numerator (denominator * Nat.pow 2 excess) * Nat.pow 2 excess

/-- The nearest float to a quotient of multiples of the least one. -/
def round (negative : Bool) (numerator denominator : Nat) : BinaryFloat :=
  let magnitude := roundToPrecision numerator denominator
  if Nat.pow 2 longest ≤ magnitude then .infinite
  else .finite (if negative then -Int.ofNat magnitude else Int.ofNat magnitude)

/-- The nearest float to a quotient. -/
def ofQuotient (numerator denominator : Nat) : BinaryFloat :=
  round false (numerator * Nat.pow 2 leastExponent) denominator

def negate : BinaryFloat → BinaryFloat
  | .finite multiple => .finite (-multiple)
  | .infinite => .infinite

def add : BinaryFloat → BinaryFloat → BinaryFloat
  | .finite first, .finite second => round (first + second < 0) (first + second).natAbs 1
  | _, _ => .infinite

def scale (float : BinaryFloat) (factor : Nat) : BinaryFloat :=
  match float with
  | .finite multiple => round (multiple < 0) (multiple.natAbs * factor) (Nat.pow 2 leastExponent)
  | .infinite => .infinite

end BinaryFloat

end TemplateCalls.Yaml

namespace TemplateCalls.Yaml.Number

open Text (CodePoint)

def isBlank (point : CodePoint) : Bool :=
  point.satisfies fun character ↦
    Text.isBlank character && !(0x1c ≤ character.toNat && character.toNat ≤ 0x1f)

def trim (text : CodeText) : CodeText :=
  ((text.dropWhile isBlank).reverse.dropWhile isBlank).reverse

def withoutUnderscores (text : CodeText) : CodeText := text.filter (· != .character '_')

/-- A number without its sign, and whether the sign is a minus. -/
def takeSign : CodeText → Bool × CodeText
  | .character '-' :: rest => (true, rest)
  | .character '+' :: rest => (false, rest)
  | text => (false, text)

/-- The places of a sexagesimal number, the highest first. -/
def placesOf (text : CodeText) : List CodeText := text.splitOn (.character ':')

/-- The number that places in a base denote, the highest first. -/
def ofPlaces (base : Nat) (places : List Nat) : Nat :=
  places.foldl (fun number place ↦ base * number + place) 0

def decimalDigit? (point : CodePoint) : Option Nat := point.char?.bind Text.digitValue?

/-! ## Integers -/

def letterValue? (character : Char) : Option Nat :=
  if character.isAlpha then some (character.toLower.toNat - 'a'.toNat + 10) else none

/-- The value of a digit in a base of at most sixteen. -/
def digitOf? (base : Nat) (point : CodePoint) : Option Nat :=
  ((decimalDigit? point).or (point.char?.bind letterValue?)).filter (· < base)

/-- The letter that announces a base after a zero. -/
def baseMark? : Nat → Option Char
  | 2 => some 'b'
  | 8 => some 'o'
  | 16 => some 'x'
  | _ => none

/-- A number may announce its base by a zero and a letter. -/
def dropBaseMark (base : Nat) : CodeText → CodeText
  | .character '0' :: .character mark :: rest =>
    if baseMark? base == some mark.toLower then rest
    else .character '0' :: .character mark :: rest
  | digits => digits

/-- Reads an integer in a base, with an optional sign. Decimal integers have a greatest length. -/
def integerInBase (base : Nat) (text : CodeText) : Except Fault Int := do
  let (negative, unsigned) := takeSign (trim text)
  let digits := dropBaseMark base unsigned
  let valid := digits.takeWhile fun point ↦ (digitOf? base point).isSome
  if base == 10 && valid.length > Decimal.digitLimit then
    .error (.numeral (.reading valid.length))
  if digits.isEmpty || valid.length < digits.length then .error (.notInteger base text)
  let magnitude := Int.ofNat (ofPlaces base (digits.filterMap (digitOf? base)))
  return if negative then -magnitude else magnitude

def integer (text : CodeText) : Except Fault Int := do
  let (negative, digits) := takeSign (withoutUnderscores text)
  let magnitude ←
    match digits with
    | [] => .error .noDigits
    | [.character '0'] => .ok 0
    | .character '0' :: .character 'b' :: rest => integerInBase 2 rest
    | .character '0' :: .character 'x' :: rest => integerInBase 16 rest
    | .character '0' :: _ => integerInBase 8 digits
    | _ =>
      if digits.contains (.character ':') then
        let places ← (placesOf digits).mapM (integerInBase 10)
        return places.foldl (fun number place ↦ 60 * number + place) 0
      else integerInBase 10 digits
  return if negative then -magnitude else magnitude

/-! ## Floats -/

/-- A decimal number: its digits as an integer, and the power of ten that they are multiplied by. -/
structure Scientific where
  digits : List Nat
  exponent : Int

/-- The nearest float. A number of so many or so few places is beyond the floats or zero. -/
def Scientific.toFloat (number : Scientific) : BinaryFloat :=
  let digits := number.digits.dropWhile (· == 0)
  let places := Int.ofNat digits.length + number.exponent
  if digits.isEmpty || places < -400 then .zero
  else if 400 < places then .infinite
  else .ofQuotient (ofPlaces 10 digits * Nat.pow 10 number.exponent.toNat)
    (Nat.pow 10 (-number.exponent).toNat)

def takeDigits (text : CodeText) : List Nat × CodeText :=
  let taken := text.takeWhile fun point ↦ (decimalDigit? point).isSome
  (taken.filterMap decimalDigit?, text.drop taken.length)

/-- Reads the exponent of a number up to its end. -/
def exponent? : CodeText → Option Int
  | [] => some 0
  | .character 'e' :: rest =>
    let (negative, unsigned) := takeSign rest
    match takeDigits unsigned with
    | (first :: digits, []) =>
      let magnitude := Int.ofNat (ofPlaces 10 (first :: digits))
      some (if negative then -magnitude else magnitude)
    | _ => none
  | _ => none

/-- Reads an unsigned decimal number, in lower case. -/
def scientific? (text : CodeText) : Option Scientific := do
  let (whole, rest) := takeDigits text
  let (fraction, rest) :=
    match rest with
    | .character '.' :: rest => takeDigits rest
    | _ => ([], rest)
  if whole.isEmpty && fraction.isEmpty then none
  else return ⟨whole ++ fraction, (← exponent? rest) - Int.ofNat fraction.length⟩

def isWord (words : List String) (text : CodeText) : Bool :=
  words.any fun word ↦ text == CodeText.ofString word

/-- Reads a float in the decimal notation, in lower case. -/
def decimalFloat (text : CodeText) : Except Fault BinaryFloat :=
  let (negative, unsigned) := takeSign (trim text)
  if isWord ["inf", "infinity", "nan"] unsigned then .ok .infinite
  else
    match scientific? unsigned with
    | some number => .ok (if negative then number.toFloat.negate else number.toFloat)
    | none => .error (.notFloat text)

/-- The sum of the places of a sexagesimal float, the lowest first, from a sum on. The weight of a
place must be within the range of floats. -/
def sumPlaces (sum : BinaryFloat) (weight : Nat) : List BinaryFloat → Except Fault BinaryFloat
  | [] => .ok sum
  | place :: rest =>
    match BinaryFloat.ofQuotient weight 1 with
    | .infinite => .error .placeBeyondFloat
    | .finite factor => sumPlaces (sum.add (place.scale factor.natAbs)) (60 * weight) rest

/-- Reads a float in any of the notations, without its sign. -/
def unsignedFloat (text : CodeText) : Except Fault BinaryFloat := do
  let text := Text.lower (withoutUnderscores text)
  if text.isEmpty then .error .noDigits
  let (_, digits) := takeSign text
  if isWord [".inf", ".nan"] digits then return .infinite
  else if digits.contains (.character ':') then
    sumPlaces .zero 1 (← (placesOf digits).mapM decimalFloat).reverse
  else decimalFloat digits

/-- Whether a float in any of the notations is zero. -/
def floatIsZero (text : CodeText) : Except Fault Bool := (· == .zero) <$> unsignedFloat text

end TemplateCalls.Yaml.Number
