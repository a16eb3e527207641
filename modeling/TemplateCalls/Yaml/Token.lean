import TemplateCalls.Yaml.Scalar

/-!
# Tokens of a YAML text

The tokens show the structure of a text: where documents, collections and entries start and end,
what is a key and what a value, and the scalars with their properties. Indentation and simple keys
are made explicit by tokens of their own. Some tokens are written on one line and name something: an
anchor or the alias of one, the type of a node, or an instruction before a document.
-/

namespace TemplateCalls.Yaml

/-- A line of instructions before a document: the version of YAML, a name for the start of tags, or
anything else, which has no effect. -/
inductive Directive where
  | version (major : Nat)
  | tagHandle (handle start : List Char)
  | reserved

inductive Token where
  | directive (content : Directive)
  | documentStart
  | documentEnd
  | textEnd
  | blockSequenceStart
  | blockMappingStart
  | blockEnd
  | flowSequenceStart
  | flowSequenceEnd
  | flowMappingStart
  | flowMappingEnd
  | blockEntry
  | flowEntry
  | key
  | value
  | alias (name : List Char)
  | anchor (name : List Char)
  | tag (handle : Option (List Char)) (suffix : List Char)
  | scalar (content : CodeText) (plain : Bool)

/-! ## Anchors -/

def isNameCharacter (character : Char) : Bool :=
  character.isAlphanum || character == '-' || character == '_'

/-- Reads a name of at least one character. -/
def takeName (cursor : Cursor) : Except Fault (List Char × Cursor) :=
  match cursor.takeWhile isNameCharacter with
  | ([], _) => .error .malformed
  | (name, cursor) => .ok (name, cursor)

/-- What may follow directly on the name of an anchor or alias. -/
def afterName : List Char := ['?', ':', ',', ']', '}', '%', '@', '\x60']

/-- Reads the name of an anchor or alias after its mark. -/
def takeAnchorName (cursor : Cursor) : Except Fault (List Char × Cursor) := do
  let (name, cursor) ← takeName cursor.advance
  if endsWord cursor.next? || cursor.next?.any afterName.contains then return (name, cursor)
  else .error .malformed

/-! ## Tags -/

/-- The characters of a tag besides letters and digits and the percent sign. -/
def tagCharacters : List Char :=
  ['-', ';', '/', '?', ':', '@', '&', '=', '+', '$', ',', '_', '.', '!', '~', '*', '\'', '(', ')',
   '[', ']']

def isTagCharacter (character : Char) : Bool :=
  character.isAlphanum || tagCharacters.contains character

/-- The bytes that a run of percent signs with two hexadecimal digits each stands for. -/
def percentBytes : Nat → Cursor → Except Fault (List UInt8 × Cursor)
  | 0, _ => .error .givenUp
  | fuel + 1, cursor =>
    if !cursor.startsWith '%' then .ok ([], cursor)
    else
      let digits := cursor.rest.tail.take 2
      match Text.hexNumber? digits with
      | some byte =>
        if digits.length < 2 then .error .malformed
        else do
          let (more, cursor) ← percentBytes fuel (cursor.advanceBy 3)
          return (byte.toUInt8 :: more, cursor)
      | none => .error .malformed

/-- Reads the characters that a run of percent escapes stands for. -/
def takePercentEscapes (cursor : Cursor) : Except Fault (List Char × Cursor) := do
  let (bytes, cursor) ← percentBytes (cursor.rest.length + 1) cursor
  match String.fromUTF8? ⟨bytes.toArray⟩ with
  | some text => return (text.toList, cursor)
  | none => .error .malformed

/-- Reads a tag or a part of one, which may be empty. -/
def tagFrom : Nat → Cursor → Except Fault (List Char × Cursor)
  | 0, _ => .error .givenUp
  | fuel + 1, cursor => do
    let (part, cursor) := cursor.takeWhile isTagCharacter
    if !cursor.startsWith '%' then return (part, cursor)
    let (escaped, cursor) ← takePercentEscapes cursor
    let (more, cursor) ← tagFrom fuel cursor
    return (part ++ escaped ++ more, cursor)

/-- Reads a tag, which must have at least one character. -/
def takeTagText (cursor : Cursor) : Except Fault (List Char × Cursor) :=
  if cursor.next?.any fun character ↦ isTagCharacter character || character == '%' then
    tagFrom (cursor.rest.length + 1) cursor
  else .error .malformed

/-- Reads a tag handle: an exclamation mark, or a name between two. -/
def takeTagHandle (cursor : Cursor) : Except Fault (List Char × Cursor) :=
  if !cursor.startsWith '!' then .error .malformed
  else
    let afterMark := cursor.advance
    if afterMark.startsWith ' ' then .ok (['!'], afterMark)
    else
      let (name, cursor) := afterMark.takeWhile isNameCharacter
      if cursor.startsWith '!' then .ok ('!' :: name ++ ['!'], cursor.advance)
      else .error .malformed

/-- Whether a tag has a second exclamation mark before the next space or line break. -/
def hasNamedHandle (rest : List Char) : Bool :=
  (rest.takeWhile fun character ↦ !endsPart (some character)).contains '!'

/-- Reads the tag of a node. A tag in angle brackets is complete; a lone mark is the tag `!`. -/
def takeTag (cursor : Cursor) : Except Fault (Token × Cursor) := do
  let (token, cursor) ← readTag
  if endsPart cursor.next? then return (token, cursor) else .error .malformed
where
  readTag : Except Fault (Token × Cursor) := do
    if cursor.second? == some '<' then
      let (suffix, cursor) ← takeTagText (cursor.advanceBy 2)
      if cursor.startsWith '>' then return (.tag none suffix, cursor.advance)
      else .error .malformed
    else if endsWord cursor.second? then return (.tag none ['!'], cursor.advance)
    else
      let (handle, cursor) ←
        if hasNamedHandle cursor.rest.tail then takeTagHandle cursor
        else .ok (['!'], cursor.advance)
      let (suffix, cursor) ← takeTagText cursor
      return (.tag (some handle) suffix, cursor)

/-! ## Directives -/

def takeVersionNumber (cursor : Cursor) : Except Fault (Nat × Cursor) :=
  match cursor.takeWhile Char.isDigit with
  | ([], _) => .error .malformed
  | (digits, cursor) => do
    let number ← (Decimal.read digits).mapError .numeral
    return (number, cursor)

def takeVersion (cursor : Cursor) : Except Fault (Directive × Cursor) := do
  let (major, cursor) ← takeVersionNumber cursor.skipSpaces
  if !cursor.startsWith '.' then .error .malformed
  let (_, cursor) ← takeVersionNumber cursor.advance
  if endsPart cursor.next? then return (.version major, cursor) else .error .malformed

def takeHandleDefinition (cursor : Cursor) : Except Fault (Directive × Cursor) := do
  let (handle, cursor) ← takeTagHandle cursor.skipSpaces
  if !cursor.startsWith ' ' then .error .malformed
  let (start, cursor) ← takeTagText cursor.skipSpaces
  if endsPart cursor.next? then return (.tagHandle handle start, cursor) else .error .malformed

/-- Reads a directive with the rest of its line. -/
def takeDirective (cursor : Cursor) : Except Fault (Directive × Cursor) := do
  let (name, cursor) ← takeName cursor.advance
  if !endsPart cursor.next? then .error .malformed
  let (directive, cursor) ←
    if name == "YAML".toList then takeVersion cursor
    else if name == "TAG".toList then takeHandleDefinition cursor
    else .ok (.reserved, cursor.skipLine)
  let cursor := cursor.skipSpaces.skipComment
  if endsLine cursor.next? then return (directive, cursor.takeBreak.2) else .error .malformed

end TemplateCalls.Yaml
