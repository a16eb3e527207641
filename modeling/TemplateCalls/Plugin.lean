import TemplateCalls.Expression

/-!
# Plugins

A plugin compiles one kind of template call. It declares its parameters in order, the modules that
its code needs, and how the operands bound to its parameters become an expression.

A call is bound in three steps. Each argument whose literal key is the name of a parameter goes to
that parameter. The arguments left over fill the parameters that are still free, in order, and what
is then left goes to the variadic parameter. Parameters without an operand take their defaults. A
variadic parameter is never bound by name.
-/

namespace TemplateCalls

/-- A parameter of a plugin. The default is the expression that stands in for an omitted operand; a
variadic parameter collects what no other parameter takes. -/
structure Parameter where
  name : String
  default : Option String := none
  variadic : Bool := false
  deriving DecidableEq, Repr

def Parameter.isRequired (parameter : Parameter) : Bool :=
  parameter.default.isNone && !parameter.variadic

inductive Operand where
  | single (source : String)
  | rest (entries : List Entry)

/-- The operands by the names of their parameters, in the order in which the names were first bound.
-/
abbrev Bindings := List (String × Operand)

namespace Bindings

def contains (bindings : Bindings) (name : String) : Bool := bindings.any (·.1 == name)

def get? (bindings : Bindings) (name : String) : Option Operand :=
  (bindings.find? (·.1 == name)).map (·.2)

/-- Binds a name. One that is bound already keeps its place. -/
def insert (name : String) (operand : Operand) : Bindings → Bindings
  | [] => [(name, operand)]
  | (other, bound) :: rest =>
    if other == name then (name, operand) :: rest else (other, bound) :: insert name operand rest

end Bindings

structure Plugin where
  name : String
  family : String
  parameters : List Parameter
  imports : List String := []
  generate : Context → Bindings → Except Fault String

/-- The reference that names the family and the plugin. -/
def Plugin.fullName (plugin : Plugin) : String := plugin.family ++ "/" ++ plugin.name

namespace Plugin

/-! ## Binding -/

/-- The parameters that take one operand. -/
def singleParameters (plugin : Plugin) : List Parameter :=
  plugin.parameters.filter (!·.variadic)

def isVariadic (plugin : Plugin) : Bool := plugin.parameters.any (·.variadic)

/-- The number of distinct names among the parameters that take one operand. -/
def capacity (plugin : Plugin) : Nat := (plugin.singleParameters.map (·.name)).eraseDups.length

/-- The parameter that an argument names. -/
def namedParameter? (plugin : Plugin) (argument : Argument) : Option String :=
  match argument.kind, argument.key with
  | .literal, some key => if plugin.singleParameters.any (·.name == key) then some key else none
  | _, _ => none

/-- Binds the arguments that name a parameter, and returns the others in order. -/
def bindNamed (plugin : Plugin) (bindings : Bindings) :
    List Argument → Except Fault (Bindings × List Argument)
  | [] => .ok (bindings, [])
  | argument :: rest =>
    match plugin.namedParameter? argument with
    | some name =>
      if bindings.contains name then .error (.malformed (.repeatedParameter plugin.name name))
      else bindNamed plugin (bindings.insert name (.single argument.value)) rest
    | none => do
      let (bindings, others) ← bindNamed plugin bindings rest
      return (bindings, argument :: others)

/-- Fills the free parameters in order, and returns what is left for the variadic parameter. -/
def fillFree (plugin : Plugin) (free : List Parameter) (bindings : Bindings) :
    List Argument → Except Fault (Bindings × List Argument)
  | [] => .ok (bindings, [])
  | argument :: rest =>
    let collect : Except Fault (Bindings × List Argument) := do
      let (bindings, collected) ← fillFree plugin free bindings rest
      return (bindings, argument :: collected)
    if argument.kind == .literal || argument.kind == .computed then
      if plugin.isVariadic then collect
      else .error (.malformed (.unknownParameter plugin.name argument.key))
    else
      match free with
      | parameter :: free =>
        fillFree plugin free (bindings.insert parameter.name (.single argument.value)) rest
      | [] =>
        if plugin.isVariadic then collect
        else .error (.malformed (.tooManyArguments plugin.name plugin.capacity))

/-- Binds the parameters that are left, in order. -/
def complete (plugin : Plugin) (collected : List Argument) (bindings : Bindings) :
    List Parameter → Except Fault Bindings
  | [] => .ok bindings
  | parameter :: rest =>
    if parameter.variadic then
      complete plugin collected
        (bindings.insert parameter.name (.rest (collected.map .argument))) rest
    else if bindings.contains parameter.name then complete plugin collected bindings rest
    else
      match parameter.default with
      | some source =>
        complete plugin collected (bindings.insert parameter.name (.single source)) rest
      | none => .error (.malformed (.missingParameter plugin.name parameter.name))

def bindArguments (plugin : Plugin) (arguments : List Argument) : Except Fault Bindings := do
  let (bindings, others) ← plugin.bindNamed [] arguments
  let free := plugin.singleParameters.filter fun parameter ↦ !bindings.contains parameter.name
  let (bindings, collected) ← plugin.fillFree free bindings others
  plugin.complete collected bindings plugin.parameters

def bind (plugin : Plugin) (entries : List Entry) : Except Fault Bindings := do
  plugin.bindArguments (← Entry.toArguments entries)

end Plugin

end TemplateCalls
