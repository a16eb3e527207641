import TemplateCalls.Yaml.Cursor
import TemplateCalls.Yaml.Reader

/-!
# Days and times in a YAML text

A moment is a day, with or without a time of day and the distance of its zone from universal time.
Its notation alone does not say that there is such a day or time.
-/

namespace TemplateCalls.Yaml

structure TimeOfDay where
  hour : Nat
  minute : Nat
  second : Nat
  /-- The distance from universal time in minutes. -/
  offset : Option Int

structure Moment where
  year : Nat
  month : Nat
  day : Nat
  time : Option TimeOfDay

namespace Moment

/-- Takes a number of at least and at most so many digits. -/
def takeNumber (least most : Nat) (characters : List Char) : Option (Nat × List Char) :=
  let digits := (characters.take most).takeWhile Char.isDigit
  if digits.length < least then none else some (Decimal.value digits, characters.drop digits.length)

def takeMark (mark : Char) : List Char → Option (List Char)
  | character :: rest => if character == mark then some rest else none
  | [] => none

/-- Reads the distance of a zone from universal time, after its sign. -/
def takeOffset (negative : Bool) (characters : List Char) : Option (Option Int × List Char) := do
  let (hours, rest) ← takeNumber 1 2 characters
  let (minutes, rest) ←
    match rest with
    | ':' :: rest => takeNumber 2 2 rest
    | _ => some (0, rest)
  let distance := Int.ofNat (60 * hours + minutes)
  return (some (if negative then -distance else distance), rest)

/-- Reads the zone of a time, which may be absent. -/
def takeZone (characters : List Char) : Option (Option Int × List Char) :=
  match characters.dropWhile isBlank with
  | 'Z' :: rest => some (some 0, rest)
  | '+' :: rest => takeOffset false rest
  | '-' :: rest => takeOffset true rest
  | _ => some (none, characters)

/-- Passes a fraction of a second, which has any number of digits. -/
def skipFraction : List Char → List Char
  | '.' :: rest => rest.dropWhile Char.isDigit
  | characters => characters

def takeTime (characters : List Char) : Option (TimeOfDay × List Char) := do
  let (hour, rest) ← takeNumber 1 2 characters
  let (minute, rest) ← takeNumber 2 2 (← takeMark ':' rest)
  let (second, rest) ← takeNumber 2 2 (← takeMark ':' rest)
  let (offset, rest) ← takeZone (skipFraction rest)
  return (⟨hour, minute, second, offset⟩, rest)

/-- Passes what stands between a day and a time of day. -/
def skipSeparator : List Char → Option (List Char)
  | 'T' :: rest => some rest
  | 't' :: rest => some rest
  | ' ' :: rest => some (rest.dropWhile isBlank)
  | '\t' :: rest => some (rest.dropWhile isBlank)
  | _ => none

/-- A line feed at the end of a text is passed over. -/
def isEnd (characters : List Char) : Bool := characters.isEmpty || characters == ['\n']

def ofChars? (characters : List Char) : Option Moment := do
  let (year, rest) ← takeNumber 4 4 characters
  let (month, rest) ← takeNumber 1 2 (← takeMark '-' rest)
  let (day, rest) ← takeNumber 1 2 (← takeMark '-' rest)
  if isEnd rest then return ⟨year, month, day, none⟩
  let (time, rest) ← takeTime (← skipSeparator rest)
  if isEnd rest then return ⟨year, month, day, some time⟩ else none

/-! ## Days and times that exist -/

def isLeapYear (year : Nat) : Bool := year % 4 == 0 && (year % 100 != 0 || year % 400 == 0)

def daysOfMonth (year month : Nat) : Nat :=
  if month == 2 then if isLeapYear year then 29 else 28
  else if [4, 6, 9, 11].contains month then 30
  else 31

def checkDay (moment : Moment) : Except Fault Unit := do
  if moment.year < 1 then .error (.yearOutOfRange moment.year)
  if moment.month < 1 || 12 < moment.month then .error .monthOutOfRange
  if moment.day < 1 || daysOfMonth moment.year moment.month < moment.day then .error .dayOutOfRange

/-- A zone is less than a day away from universal time. -/
def TimeOfDay.checkOffset (time : TimeOfDay) : Except Fault Unit :=
  match time.offset with
  | some offset => if 1440 ≤ offset.natAbs then .error (.offsetOutOfRange offset) else .ok ()
  | none => .ok ()

def TimeOfDay.checkClock (time : TimeOfDay) : Except Fault Unit := do
  if 23 < time.hour then .error .hourOutOfRange
  if 59 < time.minute then .error .minuteOutOfRange
  if 59 < time.second then .error .secondOutOfRange

/-- Finds the first fault of a moment: its zone, then its day, then its time. -/
def check (moment : Moment) : Except Fault Unit := do
  match moment.time with
  | none => moment.checkDay
  | some time =>
    TimeOfDay.checkOffset time
    moment.checkDay
    TimeOfDay.checkClock time

def checkText (text : CodeText) : Except Fault Unit :=
  match text.chars?.bind ofChars? with
  | some moment => moment.check
  | none => .error .notMoment

end Moment

end TemplateCalls.Yaml
