import TemplateCalls.Yaml.Token

/-!
# From a YAML text to its tokens

Tokens are taken from the text one after another. What has been read decides how the next characters
are understood: the columns of the open block collections, the open flow collections, and whether a
key may start here. A key without a mark is only known by the colon after it, so the place of each
token that may turn out to be one is remembered, and the tokens that announce the key are put there
later. Such a key fits on one line and into 1024 characters.
-/

namespace TemplateCalls.Yaml

/-- A token that turns out to be a key if a colon follows. In a block that starts in its column it
must. -/
structure PossibleKey where
  place : Nat
  required : Bool
  index : Nat
  line : Nat
  column : Nat

/-- What has been read. The indents are the columns of the open block collections, innermost first.
Each open flow collection keeps the possible key of the level around it. -/
structure TokenStream where
  cursor : Cursor
  tokens : Array Token := #[]
  indents : List Nat := []
  outer : List (Option PossibleKey) := []
  possibleKey : Option PossibleKey := none
  keyAllowed : Bool := true

namespace TokenStream

def longestKey : Nat := 1024

def inFlow (stream : TokenStream) : Bool := !stream.outer.isEmpty

def push (stream : TokenStream) (token : Token) : TokenStream :=
  { stream with tokens := stream.tokens.push token }

/-- Passes characters that are a token by themselves. -/
def pushMark (stream : TokenStream) (token : Token) (length : Nat) : TokenStream :=
  { stream.push token with cursor := stream.cursor.advanceBy length }

/-- Passes spaces, comments and line breaks. In a block a key may start on a new line. -/
def skipToToken : Nat → TokenStream → TokenStream
  | 0, stream => stream
  | fuel + 1, stream =>
    let cursor := stream.cursor.skipSpaces.skipComment
    match cursor.takeBreak with
    | ([], _) => { stream with cursor }
    | (_, cursor) =>
      skipToToken fuel { stream with cursor, keyAllowed := stream.keyAllowed || !stream.inFlow }

/-! ## Possible keys -/

def isStale (cursor : Cursor) (key : PossibleKey) : Bool :=
  key.line != cursor.line || cursor.index - key.index > longestKey

/-- Gives up the possible keys that a colon would come too late for. -/
def dropStaleKeys (stream : TokenStream) : Except Fault TokenStream :=
  let stale (key : PossibleKey) := isStale stream.cursor key
  if (stream.possibleKey :: stream.outer).any (·.any fun key ↦ key.required && stale key) then
    .error .malformed
  else
    .ok { stream with
      possibleKey := stream.possibleKey.filter (!stale ·)
      outer := stream.outer.map (·.filter (!stale ·)) }

def dropKey (stream : TokenStream) : Except Fault TokenStream :=
  if stream.possibleKey.any (·.required) then .error .malformed
  else .ok { stream with possibleKey := none }

/-- Remembers that the next token may be a key. -/
def saveKey (stream : TokenStream) : Except Fault TokenStream :=
  if !stream.keyAllowed then .ok stream
  else do
    let stream ← stream.dropKey
    let cursor := stream.cursor
    let required := !stream.inFlow && stream.indents.head? == some cursor.column
    return { stream with
      possibleKey := some ⟨stream.tokens.size, required, cursor.index, cursor.line, cursor.column⟩ }

/-! ## Indentation -/

/-- Closes the block collections that start to the right of a column. -/
def unwind (column : Nat) (stream : TokenStream) : TokenStream :=
  if stream.inFlow then stream
  else
    let closed := stream.indents.takeWhile (column < ·)
    { stream with
      tokens := stream.tokens ++ Array.replicate closed.length Token.blockEnd
      indents := stream.indents.drop closed.length }

def unwindAll (stream : TokenStream) : TokenStream :=
  if stream.inFlow then stream
  else
    { stream with
      tokens := stream.tokens ++ Array.replicate stream.indents.length Token.blockEnd
      indents := [] }

/-- Whether a block collection that starts in a column is a new one. -/
def opensBlock (stream : TokenStream) (column : Nat) : Bool :=
  !stream.inFlow && stream.indents.head?.all (· < column)

/-- Opens a block collection at the cursor if it is a new one. -/
def openBlock (stream : TokenStream) (token : Token) : TokenStream :=
  let column := stream.cursor.column
  if stream.opensBlock column then
    { stream.push token with indents := column :: stream.indents }
  else stream

/-- The least column of the lines that belong to a scalar. -/
def scalarIndent (stream : TokenStream) : Nat :=
  match stream.indents with
  | [] => 0
  | indent :: _ => indent + 1

/-! ## Taking a token -/

def takeEnd (stream : TokenStream) : Except Fault TokenStream := do
  let stream ← stream.unwindAll.dropKey
  return stream.push .textEnd

def takeDirectiveLine (stream : TokenStream) : Except Fault TokenStream := do
  let stream ← stream.unwindAll.dropKey
  let (directive, cursor) ← takeDirective stream.cursor
  return { stream.push (.directive directive) with cursor, keyAllowed := false }

def takeDocumentMarker (token : Token) (stream : TokenStream) : Except Fault TokenStream := do
  let stream ← stream.unwindAll.dropKey
  return { stream.pushMark token 3 with keyAllowed := false }

def takeFlowStart (token : Token) (stream : TokenStream) : Except Fault TokenStream := do
  let stream ← stream.saveKey
  return { stream.pushMark token 1 with
    outer := stream.possibleKey :: stream.outer
    possibleKey := none
    keyAllowed := true }

def takeFlowEnd (token : Token) (stream : TokenStream) : Except Fault TokenStream := do
  let stream ← stream.dropKey
  match stream.outer with
  | [] => .error .malformed
  | possibleKey :: outer =>
    return { stream.pushMark token 1 with outer, possibleKey, keyAllowed := false }

def takeFlowEntry (stream : TokenStream) : Except Fault TokenStream := do
  let stream ← stream.dropKey
  return { stream.pushMark .flowEntry 1 with keyAllowed := true }

def takeBlockEntry (stream : TokenStream) : Except Fault TokenStream := do
  if !stream.inFlow && !stream.keyAllowed then .error .malformed
  let stream ← (stream.openBlock .blockSequenceStart).dropKey
  return { stream.pushMark .blockEntry 1 with keyAllowed := true }

def takeKey (stream : TokenStream) : Except Fault TokenStream := do
  if !stream.inFlow && !stream.keyAllowed then .error .malformed
  let stream ← (stream.openBlock .blockMappingStart).dropKey
  return { stream.pushMark .key 1 with keyAllowed := !stream.inFlow }

/-- A colon makes the possible key of this level a key, and otherwise ends one that was marked. -/
def takeValue (stream : TokenStream) : Except Fault TokenStream := do
  match stream.possibleKey with
  | some key =>
    let opens := stream.opensBlock key.column
    let announced := if opens then #[Token.blockMappingStart, .key] else #[.key]
    return { stream with
      cursor := stream.cursor.advance
      tokens := stream.tokens.take key.place ++ announced ++ stream.tokens.drop key.place
        |>.push .value
      indents := if opens then key.column :: stream.indents else stream.indents
      possibleKey := none
      keyAllowed := false }
  | none =>
    if !stream.inFlow && !stream.keyAllowed then .error .malformed
    let stream := stream.openBlock .blockMappingStart
    return { stream.pushMark .value 1 with keyAllowed := !stream.inFlow }

/-- Takes a token that may be a key. -/
def takeNodePart (take : Cursor → Except Fault (Token × Cursor)) (stream : TokenStream) :
    Except Fault TokenStream := do
  let stream ← stream.saveKey
  let (token, cursor) ← take stream.cursor
  return { stream.push token with cursor, keyAllowed := false }

def takeAlias (cursor : Cursor) : Except Fault (Token × Cursor) :=
  (takeAnchorName cursor).map fun (name, cursor) ↦ (.alias name, cursor)

def takeAnchor (cursor : Cursor) : Except Fault (Token × Cursor) :=
  (takeAnchorName cursor).map fun (name, cursor) ↦ (.anchor name, cursor)

def takeQuoted (double : Bool) (cursor : Cursor) : Except Fault (Token × Cursor) :=
  (quotedScalar double cursor).map fun (content, cursor) ↦ (.scalar content false, cursor)

def takeBlockScalar (folded : Bool) (stream : TokenStream) : Except Fault TokenStream := do
  let stream ← stream.dropKey
  let (characters, cursor) ← blockScalar folded (max 1 stream.scalarIndent) stream.cursor
  return { stream.push (.scalar (.ofChars characters) false) with cursor, keyAllowed := true }

/-- After a plain scalar a key may start if the scalar was left by a line break. -/
def takePlain (stream : TokenStream) : Except Fault TokenStream := do
  let stream ← stream.saveKey
  let (characters, crossed, cursor) := plainScalar stream.inFlow stream.scalarIndent stream.cursor
  return { stream.push (.scalar (.ofChars characters) true) with cursor, keyAllowed := crossed }

/-- The characters that no plain scalar starts with, whatever follows. -/
def indicators : List Char :=
  [',', '[', ']', '{', '}', '#', '&', '*', '!', '|', '>', '\'', '"', '%', '@', '\x60']

/-- Whether a plain scalar starts with a character before the given next one. -/
def startsPlain (inFlow : Bool) (character : Char) (second : Option Char) : Bool :=
  if isBlank character || isBreak character || indicators.contains character then false
  else if character == '-' then !endsWord second
  else if character == '?' || character == ':' then !endsWord second && !inFlow
  else true

/-- Takes the token that starts with a character. -/
def takeToken (stream : TokenStream) (character : Char) : Except Fault TokenStream :=
  let cursor := stream.cursor
  let atLineStart := cursor.column == 0
  let inFlow := stream.inFlow
  let second := cursor.second?
  if character == '%' && atLineStart then stream.takeDirectiveLine
  else if atLineStart && cursor.atMarker '-' then takeDocumentMarker .documentStart stream
  else if atLineStart && cursor.atMarker '.' then takeDocumentMarker .documentEnd stream
  else if character == '[' then takeFlowStart .flowSequenceStart stream
  else if character == '{' then takeFlowStart .flowMappingStart stream
  else if character == ']' then takeFlowEnd .flowSequenceEnd stream
  else if character == '}' then takeFlowEnd .flowMappingEnd stream
  else if character == ',' then stream.takeFlowEntry
  else if character == '-' && endsWord second then stream.takeBlockEntry
  else if character == '?' && (inFlow || endsWord second) then stream.takeKey
  else if character == ':' && (inFlow || endsWord second) then stream.takeValue
  else if character == '*' then takeNodePart takeAlias stream
  else if character == '&' then takeNodePart takeAnchor stream
  else if character == '!' then takeNodePart takeTag stream
  else if character == '|' && !inFlow then takeBlockScalar false stream
  else if character == '>' && !inFlow then takeBlockScalar true stream
  else if character == '\'' then takeNodePart (takeQuoted false) stream
  else if character == '"' then takeNodePart (takeQuoted true) stream
  else if startsPlain inFlow character second then stream.takePlain
  else .error .malformed

def takeNext (stream : TokenStream) : Except Fault TokenStream := do
  let stream ← (skipToToken (stream.cursor.rest.length + 1) stream).dropStaleKeys
  let stream := stream.unwind stream.cursor.column
  match stream.cursor.next? with
  | none => stream.takeEnd
  | some character => stream.takeToken character

/-- The tokens before the first that may still turn out to be a key. Only these are known for what
they are, whatever follows. -/
def settled (stream : TokenStream) : List Token :=
  let keys := (stream.possibleKey :: stream.outer).filterMap (·.filter (!isStale stream.cursor ·))
  stream.tokens.toList.take (keys.foldl (fun least key ↦ min least key.place) stream.tokens.size)

/-- The tokens of a text up to its end or to a fault. -/
def run : Nat → TokenStream → List Token × Option Fault
  | 0, stream => (stream.settled, some .givenUp)
  | fuel + 1, stream =>
    match stream.takeNext with
    | .error fault => (stream.settled, some fault)
    | .ok next =>
      match next.tokens.back? with
      | some .textEnd => (next.tokens.toList, none)
      | _ => run fuel next

/-- The characters that may stand in a YAML text. -/
def isAllowed (character : Char) : Bool :=
  let code := character.toNat
  code == 0x9 || code == 0xA || code == 0xD || (0x20 ≤ code && code ≤ 0x7E) || code == 0x85
    || (0xA0 ≤ code && code ≤ 0xFFFD) || 0x10000 ≤ code

/-- The tokens of a text of such characters. A byte order mark at the start is passed over. -/
def tokensOfAllowed (text : List Char) : List Token × Option Fault :=
  let start : Cursor := { rest := text }
  let start := if start.startsWith byteOrderMark then start.advance else start
  run (text.length + 2) { cursor := start }

/-- A text is looked through for other characters in portions of this length, the first two at
once, each when it is reached. -/
def portion : Nat := 4096

/-- Where the portion starts that a place is in. -/
def portionStart (place : Nat) : Nat :=
  if place < 2 * portion then 0 else place / portion * portion

/-- The tokens of a text, and the fault that ends them early. Only a fault of another kind that is
met in an earlier portion is reported in preference to a character that may not stand there. -/
def tokensOf (text : List Char) : List Token × Option Fault :=
  match text.findIdx? (!isAllowed ·) with
  | none => tokensOfAllowed text
  | some place =>
    match tokensOfAllowed (text.take (portionStart place)) with
    | (tokens, some fault) => if fault == .malformed then ([], some fault) else (tokens, some fault)
    | (_, none) => ([], some .malformed)

end TokenStream

end TemplateCalls.Yaml
