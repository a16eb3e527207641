import TemplateCalls.Text.CodePoint
import TemplateCalls.Text.Pattern

/-!
# The types of YAML nodes

A tag names the type of a node. A plain scalar without a tag has the type whose notation it follows,
and is text if it follows none. The notations are those of YAML 1.1: truth values are words in three
spellings, integers may be binary, octal, hexadecimal or sexagesimal, and digits may be separated by
underscores.
-/

namespace TemplateCalls.Yaml

open Text (Pattern)

inductive Tag where
  | null
  | boolean
  | integer
  | float
  | text
  | binary
  | moment
  | sequence
  | mapping
  | set
  | orderedMapping
  | pairs
  | merge
  | value
  | unknown
  deriving DecidableEq, Repr

namespace Tag

/-- The start of the tags of the standard types. -/
def standard : List Char := "tag:yaml.org,2002:".toList

def standardNames : List (List Char × Tag) :=
  [("null".toList, null), ("bool".toList, boolean), ("int".toList, integer),
   ("float".toList, float), ("str".toList, text), ("binary".toList, binary),
   ("timestamp".toList, moment), ("seq".toList, sequence), ("map".toList, mapping),
   ("set".toList, set), ("omap".toList, orderedMapping), ("pairs".toList, pairs),
   ("merge".toList, merge), ("value".toList, value)]

def ofName (name : List Char) : Tag :=
  if standard.isPrefixOf name then (standardNames.lookup (name.drop standard.length)).getD unknown
  else unknown

/-! ## Notations of scalars -/

def word (spellings : List String) : Pattern := .choiceOf (spellings.map .literal)

def nullNotation : Pattern := .choiceOf [.empty, word ["~", "null", "Null", "NULL"]]

def booleanNotation : Pattern :=
  word ["yes", "Yes", "YES", "no", "No", "NO", "true", "True", "TRUE", "false", "False", "FALSE",
    "on", "On", "ON", "off", "Off", "OFF"]

def sign : Pattern := .optional (.anyOf ['-', '+'])

def digit : Pattern := .one Char.isDigit

/-- A digit or an underscore between digits. -/
def spacedDigit : Pattern := .one fun character ↦ character.isDigit || character == '_'

/-- The later places of a sexagesimal number. -/
def sexagesimalPlaces : Pattern :=
  .oneOrMore (.sequenceOf [.character ':', .optional (.one fun character ↦
    '0' ≤ character && character ≤ '5'), digit])

def integerNotation : Pattern :=
  sign.followedBy (.choiceOf [
    .sequenceOf [.literal "0b", .oneOrMore (.anyOf ['0', '1', '_'])],
    .sequenceOf [.character '0', .oneOrMore (.one fun character ↦
      ('0' ≤ character && character ≤ '7') || character == '_')],
    .character '0',
    .sequenceOf [.literal "0x", .oneOrMore (.one fun character ↦
      character.isDigit || ('a' ≤ character && character ≤ 'f')
        || ('A' ≤ character && character ≤ 'F') || character == '_')],
    .sequenceOf [.one fun character ↦ '1' ≤ character && character ≤ '9', .many spacedDigit,
      .optional sexagesimalPlaces]])

def exponent : Pattern :=
  .optional (.sequenceOf [.anyOf ['e', 'E'], .anyOf ['-', '+'], .oneOrMore digit])

def floatNotation : Pattern :=
  .choiceOf [
    .sequenceOf [sign, digit, .many spacedDigit, .character '.', .many spacedDigit, exponent],
    .sequenceOf [.character '.', digit, .many spacedDigit, exponent],
    .sequenceOf [sign, digit, .many spacedDigit, sexagesimalPlaces, .character '.',
      .many spacedDigit],
    .sequenceOf [sign, .character '.', word ["inf", "Inf", "INF"]],
    .sequenceOf [.character '.', word ["nan", "NaN", "NAN"]]]

def oneOrTwoDigits : Pattern := .sequenceOf [digit, .optional digit]

def twoDigits : Pattern := .sequenceOf [digit, digit]

def blanks : Pattern := .many (.anyOf [' ', '\t'])

def zoneNotation : Pattern :=
  .choiceOf [.character 'Z', .sequenceOf [.anyOf ['-', '+'], oneOrTwoDigits,
    .optional (.sequenceOf [.character ':', twoDigits])]]

/-- A day is written with two digits each for month and day, unless a time of day follows. -/
def momentNotation : Pattern :=
  .sequenceOf [twoDigits, twoDigits, .character '-', .choiceOf [
    .sequenceOf [twoDigits, .character '-', twoDigits],
    .sequenceOf [oneOrTwoDigits, .character '-', oneOrTwoDigits,
      .choiceOf [.anyOf ['T', 't'], .oneOrMore (.anyOf [' ', '\t'])],
      oneOrTwoDigits, .character ':', twoDigits, .character ':', twoDigits,
      .optional (.sequenceOf [.character '.', .many digit]),
      .optional (.sequenceOf [blanks, zoneNotation])]]]

/-- The types that a scalar may show by its notation. No text follows two of them. -/
def notations : List (Pattern × Tag) :=
  [(booleanNotation, boolean), (floatNotation, float), (integerNotation, integer),
   (.literal "<<", merge), (nullNotation, null), (momentNotation, moment), (.literal "=", value),
   (.anyOf ['!', '&', '*'], unknown)]

/-- The part of a scalar that may follow a notation: a line feed at the end is passed over, unless
it is all there is. -/
def notationPart (characters : List Char) : List Char :=
  if 1 < characters.length && characters.getLast? == some '\n' then characters.dropLast
  else characters

/-- The type of a scalar that shows it by its notation. No notation has surrogates. -/
def ofNotation (content : CodeText) : Tag :=
  match content.chars? with
  | some characters =>
    ((notations.find? (·.1.accepts (notationPart characters))).map (·.2)).getD text
  | none => text

end Tag

end TemplateCalls.Yaml
