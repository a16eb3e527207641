import TemplateCalls.Yaml.Reader

/-!
# Binary data in a YAML text

Bytes are written four characters for three, each of which stands for six bits. Characters outside
the alphabet are passed over. Equals signs fill up the last group and end the data.
-/

namespace TemplateCalls.Yaml.Binary

/-- The six bits that a character stands for. -/
def sixBits? (character : Char) : Option Nat :=
  if character.isUpper then some (character.toNat - 'A'.toNat)
  else if character.isLower then some (character.toNat - 'a'.toNat + 26)
  else if character.isDigit then some (character.toNat - '0'.toNat + 52)
  else if character == '+' then some 62
  else if character == '/' then some 63
  else none

/-- Reads bytes. The state is the place in the group of four, the bits of the group not yet used,
and the number of equals signs just before. -/
def bytesFrom (place carry fill : Nat) : List Char → Except Fault (List UInt8)
  | [] => if place == 0 then .ok [] else .error .malformed
  | '=' :: rest =>
    if 2 ≤ place then
      if 4 ≤ place + fill + 1 then .ok [] else bytesFrom place carry (fill + 1) rest
    else bytesFrom place carry fill rest
  | character :: rest =>
    match sixBits? character, place with
    | none, _ => bytesFrom place carry fill rest
    | some bits, 0 => bytesFrom 1 bits 0 rest
    | some bits, 1 => do
      return (carry * 4 + bits / 16).toUInt8 :: (← bytesFrom 2 (bits % 16) 0 rest)
    | some bits, 2 => do
      return (carry * 16 + bits / 4).toUInt8 :: (← bytesFrom 3 (bits % 4) 0 rest)
    | some bits, _ => do
      return (carry * 64 + bits).toUInt8 :: (← bytesFrom 0 0 0 rest)

/-- The bytes that a text of ASCII characters denotes. -/
def bytes (text : CodeText) : Except Fault (List UInt8) :=
  match text.chars?.filter (·.all (·.toNat < 0x80)) with
  | some characters => bytesFrom 0 0 0 characters
  | none => .error .malformed

end TemplateCalls.Yaml.Binary
