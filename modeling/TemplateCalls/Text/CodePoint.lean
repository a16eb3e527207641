/-!
# Texts that may hold surrogates

A text is a sequence of code points. As a rule all of them are characters, but an escape may name a
surrogate code point, which is no character and stands in a text by itself.
-/

namespace TemplateCalls

namespace Text

/-- A code point of a text. A surrogate is given by its distance from the first surrogate. -/
inductive CodePoint where
  | character (value : Char)
  | surrogate (distance : Fin 0x800)
  deriving DecidableEq, Repr

namespace CodePoint

instance : Coe Char CodePoint := ⟨.character⟩

def firstSurrogate : Nat := 0xD800

def ofNat? (code : Nat) : Option CodePoint :=
  if code.isValidChar then some (.character (.ofNat code))
  else if h : code - firstSurrogate < 0x800 then some (.surrogate ⟨code - firstSurrogate, h⟩)
  else none

def char? : CodePoint → Option Char
  | .character value => some value
  | .surrogate _ => none

def satisfies (point : CodePoint) (property : Char → Bool) : Bool := point.char?.any property

end CodePoint

end Text

/-- A text that may hold surrogates. -/
abbrev CodeText := List Text.CodePoint

namespace CodeText

def ofChars (characters : List Char) : CodeText := characters.map .character

def ofString (text : String) : CodeText := ofChars text.toList

def chars? (text : CodeText) : Option (List Char) := text.mapM (·.char?)

/-- The text as characters alone. A surrogate is encoded in three bytes, for each of which stands a
replacement character. -/
def toString (text : CodeText) : String :=
  .ofList (text.flatMap fun point ↦ (point.char?.map ([·])).getD (List.replicate 3 '\uFFFD'))

end CodeText

end TemplateCalls
