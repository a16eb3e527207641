import TemplateCalls.Plugin

/-!
# The built-in plugins and their calls

Three plugins are known: a value with a fallback, the collapsing of white space, and the list or
dictionary literal. A reference is the full name of a plugin or its short name. A call is compiled
by finding the plugin, binding the entries to its parameters and generating the expression, in this
order: an unknown plugin is reported in preference to a malformed argument.
-/

namespace TemplateCalls

namespace Bindings

/-- The source bound to a parameter that must be bound. A list of entries in its place is shown as a
datum. -/
def required (bindings : Bindings) (name : String) : Except Fault String :=
  match bindings.get? name with
  | some (.single source) => .ok source
  | some (.rest entries) => (Datum.write (.list (entries.map Entry.toDatum))).mapError .numeral
  | none => .error (.missingOperand name)

/-- The source bound to a parameter, or what stands in for it. -/
def optional (bindings : Bindings) (name stand : String) : Except Fault String :=
  if bindings.contains name then bindings.required name else .ok stand

end Bindings

namespace Plugin

def fallback : Plugin where
  name := "default"
  family := "functions"
  parameters := [⟨"value", none, false⟩, ⟨"default", some Expression.emptyText, false⟩]
  generate _ bindings := do
    let value ← bindings.required "value"
    let replacement ← bindings.optional "default" Expression.emptyText
    return Expression.fallback value replacement

def whitespace : Plugin where
  name := "whitespace"
  family := "functions"
  parameters := [⟨"value", none, false⟩, ⟨"with", some Expression.singleSpace, false⟩]
  imports := ["re"]
  generate context bindings := do
    let value ← bindings.required "value"
    let replacement ← bindings.optional "with" Expression.singleSpace
    return Expression.collapseWhitespace context value replacement

def array : Plugin where
  name := "array"
  family := "helpers"
  parameters := [⟨"rest", none, true⟩]
  generate _ bindings :=
    match bindings.get? "rest" with
    | some (.rest entries) => Expression.collection entries
    | some (.single source) => Expression.collection (source.toList.map fun character ↦
        .datum ⟨.text (.singleton character), rfl⟩)
    | none => Expression.collection []

def registry : List Plugin := [fallback, whitespace, array]

/-- The plugin that a reference names. A full name wins over a short one. -/
def find? (reference : String) : Option Plugin :=
  (registry.find? (·.fullName == reference)).or (registry.find? (·.name == reference))

end Plugin

/-! ## Calls -/

/-- What a call refers to: a built-in plugin by name, or a plugin from outside the registry. -/
inductive Reference where
  | named (text : String)
  | external (plugin : Plugin)

def Reference.resolve : Reference → Except Fault Plugin
  | .named text =>
    match Plugin.find? text with
    | some plugin => .ok plugin
    | none => .error (.unknownPlugin text)
  | .external plugin => .ok plugin

def Plugin.compile (plugin : Plugin) (context : Context) (entries : List Entry) :
    Except Fault String := do
  plugin.generate context (← plugin.bind entries)

def compileCall (context : Context) (reference : Reference) (entries : List Entry) :
    Except Fault String := do
  (← reference.resolve).compile context entries

end TemplateCalls
