import TemplateCalls.Decimal
import TemplateCalls.Text.Identifier
import TemplateCalls.Text.Quoted

/-!
# Arguments of a template call

An argument carries an already compiled expression and may carry a key. The kind of the key says how
the key is written into generated code: not at all, as an integer, as a quoted name, or verbatim as
an expression that gives the key when the template is rendered. A caller may build an argument whose
key does not suit its kind; that is found when the key is written.
-/

namespace TemplateCalls

inductive KeyKind where
  | positional
  | index
  | literal
  | computed
  deriving DecidableEq, Repr

def KeyKind.name : KeyKind → String
  | .positional => "positional"
  | .index => "index"
  | .literal => "literal"
  | .computed => "computed"

structure Argument where
  kind : KeyKind
  key : Option String
  value : String
  deriving DecidableEq, Repr

namespace Argument

/-- The text that marks a key as an expression over the active scope. -/
def scopeMark : String := "self.scope"

/-- Whether a text holds a pattern as a run of consecutive characters. -/
def occursIn (pattern : List Char) : List Char → Bool
  | [] => pattern.isEmpty
  | character :: rest => pattern.isPrefixOf (character :: rest) || occursIn pattern rest

def positional (value : String) : Argument := ⟨.positional, none, value⟩

def literal (key value : String) : Argument := ⟨.literal, some key, value⟩

def index (key value : String) : Argument := ⟨.index, some key, value⟩

def computed (key value : String) : Argument := ⟨.computed, some key, value⟩

/-- The argument with an integer key, which must be short enough to be written. -/
def indexOfInt (key : Int) (value : String) : Except Decimal.Overflow Argument :=
  (Decimal.writeInt key).map (index · value)

def isIndexKey (key : String) : Bool := Decimal.isNumeral key.toList

/-- A raw pair is sorted by its key: no key or an empty one is positional, digits are an index, a
key that mentions the scope is computed, and any other key is a literal name. -/
def ofPair (key : Option String) (value : String) : Argument :=
  match key with
  | none => positional value
  | some key =>
    if key.isEmpty then positional value
    else if isIndexKey key then index key value
    else if occursIn scopeMark.toList key.toList then computed key value
    else literal key value

def isKeyed (argument : Argument) : Bool := argument.kind != .positional

/-! ## Arguments on the command line -/

/-- A key on the command line is an ASCII identifier or a run of ASCII digits. -/
def isCommandLineKey (key : List Char) : Bool :=
  Text.isAsciiIdentifier key || Decimal.isNumeral key

/-- Reads `key=expression`. A text without such a key, or whose first `=` is doubled, is a
positional expression as a whole. -/
def ofCommandLine (raw : String) : Argument :=
  let key := raw.toList.takeWhile (· != '=')
  match raw.toList.dropWhile (· != '=') with
  | '=' :: expression =>
    if isCommandLineKey key && expression.head? != some '=' then
      ofPair (some (.ofList key)) (.ofList expression)
    else positional raw
  | _ => positional raw

end Argument

end TemplateCalls
