/-!
# Patterns of text

A pattern describes a set of texts. A text is matched character by character: after each character
the pattern is replaced by what remains to be matched, and the text matches if the pattern that is
left allows the empty text. Composite patterns are built by `followedBy` and `or`, which drop the
parts that can no longer contribute, so that patterns stay small while a text is matched.
-/

namespace TemplateCalls.Text

inductive Pattern where
  | nothing
  | empty
  | one (accepts : Char → Bool)
  | sequence (first second : Pattern)
  | choice (first second : Pattern)
  | many (repeated : Pattern)

namespace Pattern

def followedBy : Pattern → Pattern → Pattern
  | .nothing, _ => .nothing
  | .empty, second => second
  | first, second => .sequence first second

def or : Pattern → Pattern → Pattern
  | .nothing, second => second
  | first, .nothing => first
  | first, second => .choice first second

/-! ## Building patterns -/

def character (expected : Char) : Pattern := .one (· == expected)

def anyOf (characters : List Char) : Pattern := .one characters.contains

def literal (text : String) : Pattern :=
  text.toList.foldr (fun expected rest ↦ (character expected).followedBy rest) .empty

def sequenceOf (patterns : List Pattern) : Pattern := patterns.foldr followedBy .empty

def choiceOf (patterns : List Pattern) : Pattern := patterns.foldr or .nothing

def optional (pattern : Pattern) : Pattern := .choice .empty pattern

def oneOrMore (pattern : Pattern) : Pattern := pattern.followedBy (.many pattern)

/-! ## Matching -/

def allowsEmpty : Pattern → Bool
  | .nothing => false
  | .empty => true
  | .one _ => false
  | .sequence first second => first.allowsEmpty && second.allowsEmpty
  | .choice first second => first.allowsEmpty || second.allowsEmpty
  | .many _ => true

/-- What remains to be matched after a character. -/
def after (next : Char) : Pattern → Pattern
  | .nothing => .nothing
  | .empty => .nothing
  | .one accepts => if accepts next then .empty else .nothing
  | .sequence first second =>
    let remaining := (after next first).followedBy second
    if first.allowsEmpty then remaining.or (after next second) else remaining
  | .choice first second => (after next first).or (after next second)
  | .many repeated => (after next repeated).followedBy (.many repeated)

def accepts (pattern : Pattern) (text : List Char) : Bool :=
  (text.foldl (fun remaining next ↦ remaining.after next) pattern).allowsEmpty

end Pattern

end TemplateCalls.Text
