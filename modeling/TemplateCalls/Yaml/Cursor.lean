/-!
# Places in a YAML text

A cursor holds the text that is still to be read together with the number of characters, of lines
and of columns passed. A line ends with a line feed, a next-line character or a Unicode line or
paragraph separator; carriage returns have been turned into line feeds before.
-/

namespace TemplateCalls.Yaml

def isBreak (character : Char) : Bool :=
  character == '\n' || character == '\u0085' || character == '\u2028' || character == '\u2029'

def isBlank (character : Char) : Bool := character == ' ' || character == '\t'

def endsLine : Option Char → Bool
  | none => true
  | some character => isBreak character

/-- Whether the next character, if there is one, is a space or ends a line. -/
def endsPart : Option Char → Bool
  | none => true
  | some character => character == ' ' || isBreak character

/-- Whether the next character, if there is one, is blank or ends a line. -/
def endsWord : Option Char → Bool
  | none => true
  | some character => isBlank character || isBreak character

def byteOrderMark : Char := '\uFEFF'

structure Cursor where
  rest : List Char
  index : Nat := 0
  line : Nat := 0
  column : Nat := 0

namespace Cursor

def next? (cursor : Cursor) : Option Char := cursor.rest.head?

def second? (cursor : Cursor) : Option Char := cursor.rest.tail.head?

def startsWith (cursor : Cursor) (character : Char) : Bool := cursor.next? == some character

/-- Passes one character. A byte order mark takes no column. -/
def advance (cursor : Cursor) : Cursor :=
  match cursor.rest with
  | [] => cursor
  | character :: rest =>
    if isBreak character then ⟨rest, cursor.index + 1, cursor.line + 1, 0⟩
    else if character == byteOrderMark then ⟨rest, cursor.index + 1, cursor.line, cursor.column⟩
    else ⟨rest, cursor.index + 1, cursor.line, cursor.column + 1⟩

def advanceBy : Nat → Cursor → Cursor
  | 0, cursor => cursor
  | count + 1, cursor => advanceBy count cursor.advance

/-- Passes the characters with a property, and returns them. -/
def takeWhile (cursor : Cursor) (property : Char → Bool) : List Char × Cursor :=
  let taken := cursor.rest.takeWhile property
  (taken, cursor.advanceBy taken.length)

def skipWhile (cursor : Cursor) (property : Char → Bool) : Cursor := (cursor.takeWhile property).2

def skipSpaces (cursor : Cursor) : Cursor := cursor.skipWhile (· == ' ')

def skipLine (cursor : Cursor) : Cursor := cursor.skipWhile (!isBreak ·)

/-- Passes a comment, if there is one here. -/
def skipComment (cursor : Cursor) : Cursor :=
  if cursor.startsWith '#' then cursor.skipLine else cursor

/-- Passes a line break, if there is one here, and returns what it stands for in a scalar. -/
def takeBreak (cursor : Cursor) : List Char × Cursor :=
  match cursor.next? with
  | some character =>
    if character == '\n' || character == '\u0085' then (['\n'], cursor.advance)
    else if isBreak character then ([character], cursor.advance)
    else ([], cursor)
  | none => ([], cursor)

/-- Whether three given characters and then a blank or the end of a line follow. -/
def atMarker (cursor : Cursor) (character : Char) : Bool :=
  match cursor.rest with
  | first :: second :: third :: rest =>
    first == character && second == character && third == character && endsWord rest.head?
  | _ => false

/-- Whether a marker that starts or ends a document follows. -/
def atDocumentMarker (cursor : Cursor) : Bool := cursor.atMarker '-' || cursor.atMarker '.'

end Cursor

end TemplateCalls.Yaml
