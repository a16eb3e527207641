import TemplateCalls.Text.CodePoint
import TemplateCalls.Text.Printable

/-!
# Quoted text

A text is written into generated code as one string literal on one line. The literal stands between
single quotation marks, or between double ones when the text holds a single mark and no double one.
A backslash and the literal's own mark are escaped by a backslash; tab, line feed and carriage
return by their letters; any other unprintable character, and every surrogate, by its code point in
two, four or eight hexadecimal digits. All other characters stand for themselves.
-/

namespace TemplateCalls.Text.Quoted

/-- The quotation mark that a text is written between. -/
def mark (text : CodeText) : Char :=
  if text.contains (.character '\'') && !text.contains (.character '"') then '"' else '\''

/-- The last `width` hexadecimal digits of a number, in lower case. -/
def hexDigits : Nat → Nat → List Char
  | 0, _ => []
  | width + 1, number => hexDigits width (number / 16) ++ [Nat.digitChar (number % 16)]

/-- How a character is written between two marks. -/
def escape (mark character : Char) : List Char :=
  if character == mark || character == '\\' then ['\\', character]
  else if character == '\t' then ['\\', 't']
  else if character == '\n' then ['\\', 'n']
  else if character == '\r' then ['\\', 'r']
  else if isPrintable character then [character]
  else if character.toNat < 0x100 then '\\' :: 'x' :: hexDigits 2 character.toNat
  else if character.toNat < 0x10000 then '\\' :: 'u' :: hexDigits 4 character.toNat
  else '\\' :: 'U' :: hexDigits 8 character.toNat

/-- How a code point is written between two marks. -/
def escapePoint (mark : Char) : CodePoint → List Char
  | .character value => escape mark value
  | .surrogate distance => '\\' :: 'u' :: hexDigits 4 (CodePoint.firstSurrogate + distance)

def encode (text : CodeText) : List Char :=
  mark text :: (text.flatMap (escapePoint (mark text)) ++ [mark text])

end TemplateCalls.Text.Quoted

namespace TemplateCalls

def CodeText.quote (text : CodeText) : String := .ofList (Text.Quoted.encode text)

def Text.quote (text : String) : String := (CodeText.ofString text).quote

end TemplateCalls
