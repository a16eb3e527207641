import TemplateCalls.Fault

/-!
# Keys and entries of a call

An index is written as the integer it denotes, a literal name as a quoted text and a computed key as
it stands. A key that does not suit its kind is refused.

A caller hands over a call as a list of entries. An entry is an argument, a raw pair of key and
expression, or a stray datum, which is neither an argument nor a tuple of two; the last is refused
and shown in the notation of the generated language. A pair with a key of another type is handed
over as well as any entry, but it cannot be sorted.
-/

namespace TemplateCalls

/-! ## Keys -/

namespace Argument

/-- The integer that the key denotes, whatever the kind of the argument. -/
def indexValue (argument : Argument) : Except Fault Nat :=
  match argument.key with
  | none => .error (.malformed (.invalidIndex none))
  | some key =>
    if isIndexKey key then (Decimal.read key.toList).mapError .numeral
    else .error (.malformed (.invalidIndex (some key)))

def keySource (argument : Argument) : Except Fault String :=
  match argument.kind, argument.key with
  | .positional, _ => .error (.malformed .keyOfPositional)
  | kind, none => .error (.malformed (.emptyKey kind))
  | kind, some key =>
    if key.isEmpty then .error (.malformed (.emptyKey kind))
    else
      match kind with
      | .index => do
        let number ← argument.indexValue
        (Decimal.write number).mapError .numeral
      | .literal => .ok (Text.quote key)
      | _ => .ok key

end Argument

/-! ## Entries -/

/-- A value that a caller may hand over in place of an argument. -/
inductive Datum where
  | nothing
  | truth (value : Bool)
  | integer (value : Int)
  | text (value : String)
  | tuple (items : List Datum)
  | list (items : List Datum)
  | argument (value : Argument)

namespace Datum

def argumentSource (argument : Argument) : String :=
  "NamedArgument(value=" ++ Text.quote argument.value ++ ", key="
    ++ (argument.key.map Text.quote).getD absent ++ ", kind=<KeyKind."
    ++ argument.kind.name.map Char.toUpper ++ ": " ++ Text.quote argument.kind.name ++ ">)"

mutual

def write : Datum → Except Decimal.Overflow String
  | .nothing => .ok absent
  | .truth value => .ok (if value then "True" else "False")
  | .integer value => Decimal.writeInt value
  | .text value => .ok (Text.quote value)
  | .tuple [item] => (write item).map fun written ↦ "(" ++ written ++ ",)"
  | .tuple items => (writeAll items).map fun written ↦ "(" ++ ", ".intercalate written ++ ")"
  | .list items => (writeAll items).map fun written ↦ "[" ++ ", ".intercalate written ++ "]"
  | .argument value => .ok (argumentSource value)

def writeAll : List Datum → Except Decimal.Overflow (List String)
  | [] => .ok []
  | item :: rest => do return (← write item) :: (← writeAll rest)

end

/-- Whether a datum can only be refused where an argument is wanted. -/
def isStray : Datum → Bool
  | .argument _ | .tuple [_, _] => false
  | _ => true

end Datum

abbrev StrayDatum := { datum : Datum // datum.isStray = true }

inductive Entry where
  | argument (value : Argument)
  | pair (key : Option String) (value : String)
  | datum (value : StrayDatum)

namespace Entry

/-- An entry as a datum; a pair is a tuple of two. -/
def toDatum : Entry → Datum
  | .argument value => .argument value
  | .pair key value => .tuple [(key.map Datum.text).getD .nothing, .text value]
  | .datum value => value.val

def toArgument : Entry → Except Fault Argument
  | .argument value => .ok value
  | .pair key value => .ok (.ofPair key value)
  | .datum value => do
    let written ← value.val.write.mapError .numeral
    .error (.malformed (.notAnArgument written))

/-- The arguments that entries stand for; the first datum among them is refused. -/
def toArguments (entries : List Entry) : Except Fault (List Argument) := entries.mapM toArgument

end Entry

/-! ## Pairs with other keys -/

namespace Datum

/-- Whether a datum may be the key of a raw pair. -/
def isKey : Datum → Bool
  | .nothing | .text _ => true
  | _ => false

def typeName : Datum → String
  | .nothing => "NoneType"
  | .truth _ => "bool"
  | .integer _ => "int"
  | .text _ => "str"
  | .tuple _ => "tuple"
  | .list _ => "list"
  | .argument _ => "NamedArgument"

end Datum

abbrev MistypedKey := { key : Datum // key.isKey = false }

/-- What a caller hands over: an entry, or a pair of which the key is neither absent nor a text. -/
inductive Handed where
  | entry (value : Entry)
  | mistypedPair (key : MistypedKey) (value : Datum)

namespace Handed

/-- The argument that is meant. A key that is no text cannot be sorted. -/
def toArgument : Handed → Except Fault Argument
  | .entry value => value.toArgument
  | .mistypedPair key _ => .error (.keyNotText key.val.typeName)

def toArguments (handed : List Handed) : Except Fault (List Argument) := handed.mapM toArgument

end Handed

end TemplateCalls
