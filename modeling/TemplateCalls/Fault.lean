import TemplateCalls.Argument

/-!
# Why a template call is refused

A call is refused because an argument or a binding is malformed, because the reference names no
plugin, because an index is too large to be read or written, because a plugin is run without an
operand it needs, because a pair has a key that is no text, or because a plugin from outside fails
in a way of its own.
-/

namespace TemplateCalls

inductive Malformed where
  | keyOfPositional
  | emptyKey (kind : KeyKind)
  | invalidIndex (key : Option String)
  | notAnArgument (written : String)
  | repeatedParameter (plugin parameter : String)
  | unknownParameter (plugin : String) (key : Option String)
  | tooManyArguments (plugin : String) (limit : Nat)
  | missingParameter (plugin parameter : String)
  deriving DecidableEq, Repr

inductive Fault where
  | malformed (cause : Malformed)
  | unknownPlugin (reference : String)
  | numeral (overflow : Decimal.Overflow)
  | missingOperand (name : String)
  | keyNotText (type : String)
  | foreign (kind text : String)
  deriving DecidableEq, Repr

/-- An absent key is shown as the absent value of the generated language. -/
def absent : String := "None"

def Malformed.message : Malformed → String
  | .keyOfPositional => "positional argument has no key"
  | .emptyKey kind => kind.name ++ " key is empty"
  | .invalidIndex key =>
    "invalid array index " ++ (key.map Text.quote).getD absent
      ++ ": expected a non-negative integer"
  | .notAnArgument written => "invalid argument " ++ written
  | .repeatedParameter plugin parameter =>
    plugin ++ ": parameter '" ++ parameter ++ "' given more than once"
  | .unknownParameter plugin key => plugin ++ ": unknown parameter '" ++ key.getD absent ++ "'"
  | .tooManyArguments plugin limit =>
    plugin ++ ": too many arguments (expected at most " ++ limit.repr ++ ")"
  | .missingParameter plugin parameter =>
    plugin ++ ": missing required parameter '" ++ parameter ++ "'"

def Fault.message : Fault → String
  | .malformed cause => cause.message
  | .unknownPlugin reference => "Unknown plugin: " ++ reference
  | .numeral overflow => overflow.message
  | .missingOperand name => Text.quote name
  | .keyNotText type => "expected string or bytes-like object, got " ++ Text.quote type
  | .foreign _ text => text

end TemplateCalls
