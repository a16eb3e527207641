import TemplateCalls.Text.CharacterSets
import TemplateCalls.Yaml.Cursor
import TemplateCalls.Yaml.Reader

/-!
# Scalars in a YAML text

A scalar is written plain, between quotation marks, or as an indented block. Line breaks inside a
scalar are folded as the style demands. Between double quotation marks a code point may be named by
an escape, even a surrogate.
-/

namespace TemplateCalls.Yaml

/-! ## Plain scalars -/

/-- What a colon in a plain scalar must not be followed by. -/
def endsPlainKey (inFlow : Bool) (next : Option Char) : Bool :=
  endsWord next || (inFlow && next.any [',', '[', ']', '{', '}'].contains)

/-- The part of a plain scalar up to the next blank, line break or indicator. -/
def plainRun (inFlow : Bool) : List Char → List Char
  | [] => []
  | character :: rest =>
    if isBlank character || isBreak character
        || (character == ':' && endsPlainKey inFlow rest.head?)
        || (inFlow && [',', '?', '[', ']', '{', '}'].contains character) then []
    else character :: plainRun inFlow rest

/-- The line breaks and leading spaces between two lines of a plain scalar, or nothing if a document
marker follows a break. -/
def plainBreaks : Nat → Cursor → Option (List Char) × Cursor
  | 0, cursor => (none, cursor)
  | fuel + 1, cursor =>
    let cursor := cursor.skipSpaces
    match cursor.takeBreak with
    | ([], _) => (some [], cursor)
    | (lineBreak, cursor) =>
      if cursor.atDocumentMarker then (none, cursor)
      else
        let (more, cursor) := plainBreaks fuel cursor
        (more.map (lineBreak ++ ·), cursor)

/-- What is between two lines of a scalar: a single line feed becomes a space, and of several the
first is dropped. -/
def fold (lineBreak breaks : List Char) : List Char :=
  if lineBreak != ['\n'] then lineBreak ++ breaks
  else if breaks.isEmpty then [' ']
  else breaks

/-- The space after a part of a plain scalar, and whether it holds a line break. -/
def plainSpace (cursor : Cursor) : List Char × Bool × Cursor :=
  let (spaces, cursor) := cursor.takeWhile (· == ' ')
  match cursor.takeBreak with
  | ([], _) => (spaces, false, cursor)
  | (lineBreak, cursor) =>
    if cursor.atDocumentMarker then ([], true, cursor)
    else
      match plainBreaks (cursor.rest.length + 1) cursor with
      | (none, cursor) => ([], true, cursor)
      | (some breaks, cursor) => (fold lineBreak breaks, true, cursor)

/-- A plain scalar that goes on after a space, and whether a line break was passed last. -/
def plainFrom (inFlow : Bool) (indent : Nat) (space : List Char) (crossed : Bool) :
    Nat → Cursor → List Char × Bool × Cursor
  | 0, cursor => ([], crossed, cursor)
  | fuel + 1, cursor =>
    if cursor.startsWith '#' then ([], crossed, cursor)
    else
      let part := plainRun inFlow cursor.rest
      if part.isEmpty then ([], crossed, cursor)
      else
        let (next, crossed, cursor) := plainSpace (cursor.advanceBy part.length)
        if next.isEmpty || (!inFlow && cursor.column < indent) then (space ++ part, crossed, cursor)
        else
          let (more, crossed, cursor) := plainFrom inFlow indent next crossed fuel cursor
          (space ++ part ++ more, crossed, cursor)

/-- Reads a plain scalar whose later lines are indented at least so far. -/
def plainScalar (inFlow : Bool) (indent : Nat) (cursor : Cursor) : List Char × Bool × Cursor :=
  plainFrom inFlow indent [] false (cursor.rest.length + 1) cursor

/-! ## Quoted scalars -/

/-- The characters that a single letter after a backslash stands for. -/
def escapeLetters : List (Char × Char) :=
  [('0', '\x00'), ('a', '\x07'), ('b', '\x08'), ('t', '\t'), ('\t', '\t'), ('n', '\n'),
   ('v', '\x0B'), ('f', '\x0C'), ('r', '\r'), ('e', '\x1B'), (' ', ' '), ('"', '"'), ('\\', '\\'),
   ('/', '/'), ('N', '\u0085'), ('_', '\u00A0'), ('L', '\u2028'), ('P', '\u2029')]

/-- The letters that announce a code point, and the number of its hexadecimal digits. -/
def escapeWidths : List (Char × Nat) := [('x', 2), ('u', 4), ('U', 8)]

/-- The code point that an escape names by its number. -/
def namedPoint (code : Nat) : Except Fault Text.CodePoint :=
  match Text.CodePoint.ofNat? code with
  | some point => .ok point
  | none => .error (if code < 0x80000000 then .escapeBeyondUnicode else .escapeBeyondMachine)

/-- The line breaks inside a quoted scalar, with the blanks around them. -/
def quotedBreaks : Nat → Cursor → Except Fault (List Char × Cursor)
  | 0, _ => .error .givenUp
  | fuel + 1, cursor =>
    if cursor.atDocumentMarker then .error .malformed
    else
      let cursor := cursor.skipWhile isBlank
      match cursor.takeBreak with
      | ([], _) => .ok ([], cursor)
      | (lineBreak, cursor) => do
        let (more, cursor) ← quotedBreaks fuel cursor
        return (lineBreak ++ more, cursor)

/-- The blanks and line breaks between two parts of a quoted scalar. -/
def quotedSpace (cursor : Cursor) : Except Fault (List Char × Cursor) :=
  let (blanks, cursor) := cursor.takeWhile isBlank
  match cursor.next? with
  | none => .error .malformed
  | some _ =>
    match cursor.takeBreak with
    | ([], _) => .ok (blanks, cursor)
    | (lineBreak, cursor) => do
      let (breaks, cursor) ← quotedBreaks (cursor.rest.length + 1) cursor
      return (fold lineBreak breaks, cursor)

/-- The content of the escape that starts after a backslash. An escaped line break joins two lines.
-/
def escapeSequence (cursor : Cursor) : Except Fault (CodeText × Cursor) :=
  match cursor.next? with
  | none => .error .malformed
  | some letter =>
    match escapeLetters.lookup letter, escapeWidths.lookup letter with
    | some character, _ => .ok ([.character character], cursor.advance)
    | none, some width => do
      let digits := cursor.rest.tail.take width
      match Text.hexNumber? digits with
      | some code =>
        if digits.length < width then .error .malformed
        else return ([← namedPoint code], cursor.advanceBy (width + 1))
      | none => .error .malformed
    | none, none =>
      if isBreak letter then do
        let (_, cursor) := cursor.takeBreak
        let (breaks, cursor) ← quotedBreaks (cursor.rest.length + 1) cursor
        return (.ofChars breaks, cursor)
      else .error .malformed

/-- The part of a quoted scalar up to the next blank, line break or closing mark. -/
def quotedRun (double : Bool) : Nat → Cursor → Except Fault (CodeText × Cursor)
  | 0, _ => .error .givenUp
  | fuel + 1, cursor =>
    let (part, cursor) := cursor.takeWhile fun character ↦
      !(['\'', '"', '\\'].contains character || isBlank character || isBreak character)
    let continueWith (content : CodeText) (cursor : Cursor) : Except Fault (CodeText × Cursor) := do
      let (more, cursor) ← quotedRun double fuel cursor
      return (.ofChars part ++ content ++ more, cursor)
    match double, cursor.next? with
    | false, some '\'' =>
      if cursor.second? == some '\'' then continueWith [.character '\''] (cursor.advanceBy 2)
      else .ok (.ofChars part, cursor)
    | false, some '"' => continueWith [.character '"'] cursor.advance
    | false, some '\\' => continueWith [.character '\\'] cursor.advance
    | true, some '\'' => continueWith [.character '\''] cursor.advance
    | true, some '\\' => do
      let (content, cursor) ← escapeSequence cursor.advance
      continueWith content cursor
    | _, _ => .ok (.ofChars part, cursor)

def quotedFrom (double : Bool) : Nat → Cursor → Except Fault (CodeText × Cursor)
  | 0, _ => .error .givenUp
  | fuel + 1, cursor => do
    let (part, cursor) ← quotedRun double (cursor.rest.length + 1) cursor
    if cursor.startsWith (if double then '"' else '\'') then return (part, cursor.advance)
    let (space, cursor) ← quotedSpace cursor
    let (more, cursor) ← quotedFrom double fuel cursor
    return (part ++ .ofChars space ++ more, cursor)

/-- Reads a scalar between double or single quotation marks. -/
def quotedScalar (double : Bool) (cursor : Cursor) : Except Fault (CodeText × Cursor) :=
  quotedFrom double (cursor.rest.length + 1) cursor.advance

/-! ## Block scalars -/

/-- What becomes of the line breaks at the end of a block: a single one is kept, or none, or all. -/
inductive Chomping where
  | clip
  | strip
  | keep
  deriving DecidableEq

/-- The indicators after the mark of a block: what becomes of its last line breaks, and how far it
is indented beyond its parent. -/
structure BlockHeader where
  chomping : Chomping := .clip
  indentation : Option Nat := none

def chompingOf? : Option Char → Option Chomping
  | some '+' => some .keep
  | some '-' => some .strip
  | _ => none

/-- Reads an indentation indicator, if there is one. Zero is none. -/
def takeIndentation (cursor : Cursor) : Except Fault (Option Nat × Cursor) :=
  match cursor.next? with
  | some digit =>
    if digit == '0' then .error .malformed
    else if digit.isDigit then .ok (some (digit.toNat - '0'.toNat), cursor.advance)
    else .ok (none, cursor)
  | none => .ok (none, cursor)

/-- The two indicators stand in either order. -/
def takeBlockIndicators (cursor : Cursor) : Except Fault (BlockHeader × Cursor) := do
  match chompingOf? cursor.next? with
  | some chomping =>
    let (indentation, cursor) ← takeIndentation cursor.advance
    return (⟨chomping, indentation⟩, cursor)
  | none =>
    let (indentation, cursor) ← takeIndentation cursor
    match indentation, chompingOf? cursor.next? with
    | some _, some chomping => return (⟨chomping, indentation⟩, cursor.advance)
    | _, _ => return (⟨.clip, indentation⟩, cursor)

/-- Reads the header of a block up to the end of its line. -/
def takeBlockHeader (cursor : Cursor) : Except Fault (BlockHeader × Cursor) := do
  let (header, cursor) ← takeBlockIndicators cursor
  if !endsPart cursor.next? then .error .malformed
  let cursor := cursor.skipSpaces.skipComment
  if !endsLine cursor.next? then .error .malformed
  return (header, cursor.takeBreak.2)

/-- The empty lines before a block whose indentation is not given, and its widest leading column. -/
def blockStart (widest : Nat) : Nat → Cursor → List Char × Nat × Cursor
  | 0, cursor => ([], widest, cursor)
  | fuel + 1, cursor =>
    let cursor := cursor.skipSpaces
    let widest := max widest cursor.column
    match cursor.takeBreak with
    | ([], _) => ([], widest, cursor)
    | (lineBreak, cursor) =>
      let (more, widest, cursor) := blockStart widest fuel cursor
      (lineBreak ++ more, widest, cursor)

/-- Passes at most the spaces that indent a line of a block. -/
def skipIndentation (indent : Nat) (cursor : Cursor) : Cursor :=
  cursor.advanceBy (min (indent - cursor.column) (cursor.rest.takeWhile (· == ' ')).length)

/-- The empty lines before a line of a block. -/
def blockBreaks (indent : Nat) : Nat → Cursor → List Char × Cursor
  | 0, cursor => ([], cursor)
  | fuel + 1, cursor =>
    let cursor := skipIndentation indent cursor
    match cursor.takeBreak with
    | ([], _) => ([], cursor)
    | (lineBreak, cursor) =>
      let (more, cursor) := blockBreaks indent fuel cursor
      (lineBreak ++ more, cursor)

/-- What is read of a block: its lines, the break after the last of them, and the empty lines that
follow. -/
structure BlockLines where
  content : List Char := []
  lastBreak : List Char := []
  emptyLines : List Char := []

/-- Reads the lines of a block after empty lines. Two lines of a folded block are joined by a space
unless one of them starts with a blank or empty lines stand between them. -/
def blockLines (folded : Bool) (indent : Nat) (emptyLines : List Char) :
    Nat → Cursor → BlockLines × Cursor
  | 0, cursor => ({ emptyLines }, cursor)
  | fuel + 1, cursor =>
    let inBlock (cursor : Cursor) : Bool := cursor.column == indent && cursor.next?.isSome
    if !inBlock cursor then ({ emptyLines }, cursor)
    else
      let (line, afterLine) := cursor.takeWhile (!isBreak ·)
      let (lineBreak, afterBreak) := afterLine.takeBreak
      let (breaks, afterBreaks) := blockBreaks indent (afterBreak.rest.length + 1) afterBreak
      if !inBlock afterBreaks then (⟨emptyLines ++ line, lineBreak, breaks⟩, afterBreaks)
      else
        let joint :=
          if folded && lineBreak == ['\n'] && !cursor.next?.any isBlank
              && !afterBreaks.next?.any isBlank then
            if breaks.isEmpty then [' '] else []
          else lineBreak
        let (more, cursor) := blockLines folded indent breaks fuel afterBreaks
        ({ more with content := emptyLines ++ line ++ joint ++ more.content }, cursor)

/-- The content of a block once its last line breaks are seen to. -/
def BlockLines.chomp (lines : BlockLines) : Chomping → List Char
  | .strip => lines.content
  | .clip => lines.content ++ lines.lastBreak
  | .keep => lines.content ++ lines.lastBreak ++ lines.emptyLines

/-- Reads a block scalar whose parent leaves it at least this indentation. -/
def blockScalar (folded : Bool) (leastIndent : Nat) (cursor : Cursor) :
    Except Fault (List Char × Cursor) := do
  let (header, cursor) ← takeBlockHeader cursor.advance
  let fuel := cursor.rest.length + 1
  let (emptyLines, indent, cursor) :=
    match header.indentation with
    | none =>
      let (emptyLines, widest, cursor) := blockStart 0 fuel cursor
      (emptyLines, max leastIndent widest, cursor)
    | some indentation =>
      let indent := leastIndent + indentation - 1
      let (emptyLines, cursor) := blockBreaks indent fuel cursor
      (emptyLines, indent, cursor)
  let (lines, cursor) := blockLines folded indent emptyLines fuel cursor
  return (lines.chomp header.chomping, cursor)

end TemplateCalls.Yaml
