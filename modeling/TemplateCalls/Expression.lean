import TemplateCalls.Argument.Entry
import TemplateCalls.Text.LetterCase

/-!
# Templates of expressions

Three templates splice the texts of their operands into one expression. The one setting that they
depend on is the charset of the templates.

A value with a fallback yields its value unless that is absent or the empty text, and its fallback
then. The value is evaluated once, the fallback only when it is needed.

The collapsing of white space puts one replacement in the place of every run of white space. An
absent value counts as empty, bytes are decoded by the charset, and a backslash in the replacement
stands for itself. What counts as white space is fixed by the charset: that of Unicode for UTF-8,
that of ASCII for any other.

A literal has the entries of a call as its items, in their order. A positional entry takes the next
free index, which is one more than the largest index before it. As long as every entry is positional
or carries the index that it would be given, the literal is a list; otherwise it is a dictionary and
shows all keys.
-/

namespace TemplateCalls

structure Context where
  charset : CodeText := .ofString "UTF-8"
  deriving DecidableEq, Repr

/-- Whether a charset name means UTF-8, in any mixture of cases. -/
def isUtf8 (charset : CodeText) : Bool := Text.lower charset == .ofString "utf-8"

def Context.isUtf8 (context : Context) : Bool := TemplateCalls.isUtf8 context.charset

namespace Expression

/-! ## A value with a fallback -/

/-- The empty text, which stands in for a fallback that is not given. -/
def emptyText : String := "''"

def fallback (value replacement : String) : String :=
  "(_tmp if (_tmp := (" ++ value ++ ")) is not None and _tmp != '' else (" ++ replacement ++ "))"

/-! ## Collapsing white space -/

/-- One space, which stands in for a replacement that is not given. -/
def singleSpace : String := "' '"

/-- The pattern of a run of white space. -/
def whitespacePattern : String := "\\s+"

def textOf (charset : CodeText) (value : String) : String :=
  "('' if (_tmp := (" ++ value ++ ")) is None else _tmp.decode(" ++ charset.quote
    ++ ", 'replace') if isinstance(_tmp, bytes) else str(_tmp))"

/-- The replacement with its backslashes doubled. -/
def verbatimReplacement (replacement : String) : String :=
  "str(" ++ replacement ++ ").replace(" ++ Text.quote "\\" ++ ", " ++ Text.quote "\\\\" ++ ")"

def collapseWhitespace (context : Context) (value replacement : String) : String :=
  "re.sub(" ++ Text.quote whitespacePattern ++ ", " ++ verbatimReplacement replacement ++ ", "
    ++ textOf context.charset value ++ ", flags="
    ++ (if context.isUtf8 then "re.UNICODE" else "re.ASCII") ++ ")"

/-! ## List and dictionary literals -/

/-- One item of a literal: its key and value as source text, and whether the key is the index that
the item would be given without one. -/
structure Item where
  key : String
  value : String
  inSequence : Bool
  deriving DecidableEq, Repr

/-- The item of an argument, and the next free index after it. -/
def Item.ofArgument (next : Nat) (argument : Argument) : Except Fault (Item × Nat) :=
  match argument.kind with
  | .positional => do
    let key ← (Decimal.write next).mapError .numeral
    return (⟨key, argument.value, true⟩, next + 1)
  | .index => do
    let number ← argument.indexValue
    let key ← (Decimal.write number).mapError .numeral
    return (⟨key, argument.value, number == next⟩, max next (number + 1))
  | _ => do
    let key ← argument.keySource
    return (⟨key, argument.value, false⟩, next)

/-- The items of arguments that follow on others, by the next free index. -/
def itemsFrom (next : Nat) : List Argument → Except Fault (List Item)
  | [] => .ok []
  | argument :: rest => do
    let (item, next) ← Item.ofArgument next argument
    return item :: (← itemsFrom next rest)

def listLiteral (items : List Item) : String :=
  "[" ++ ", ".intercalate (items.map (·.value)) ++ "]"

def dictionaryLiteral (items : List Item) : String :=
  "\x7b" ++ ", ".intercalate (items.map fun item ↦ item.key ++ ": " ++ item.value) ++ "\x7d"

def literalOf (items : List Item) : String :=
  if items.all (·.inSequence) then listLiteral items else dictionaryLiteral items

def collection (entries : List Entry) : Except Fault String := do
  let arguments ← Entry.toArguments entries
  return literalOf (← itemsFrom 0 arguments)

/-- The literal that holds what a caller hands over. -/
def collectionOf (handed : List Handed) : Except Fault String := do
  collection ((← Handed.toArguments handed).map .argument)

end Expression

end TemplateCalls
