import TemplateCalls.Text.CharacterSets
import TemplateCalls.Text.Identifier
import TemplateCalls.Yaml.Reader

/-!
# Settings

The settings are the charset of the templates and the name of the rendering function. A draft of
them holds what a source gives for each, and becomes settings if it gives text, a charset that is
not blank, and a function name that is an identifier. All that is wrong with a draft is reported
together, the charset first.
-/

namespace TemplateCalls

structure Settings where
  charset : CodeText := .ofString "UTF-8"
  functionName : String := "render"
  deriving DecidableEq, Repr

/-- What a source gives for each setting. -/
structure Draft where
  charset : Option RawValue := none
  functionName : Option RawValue := none
  deriving DecidableEq, Repr

inductive Violation where
  | notText
  | notUnicode
  | blankCharset
  | notIdentifier (name : CodeText)
  deriving DecidableEq, Repr

structure Violations where
  charset : Option Violation
  functionName : Option Violation
  deriving DecidableEq, Repr

namespace Violation

def message : Violation → String
  | .notText => "Input should be a valid string"
  | .notUnicode => "Input should be a valid string, unable to parse raw data as a unicode string"
  | .blankCharset => "Value error, charset cannot be empty"
  | .notIdentifier name => "Value error, '" ++ name.toString ++ "' is not a valid Python identifier"

def type : Violation → String
  | .notText => "string_type"
  | .notUnicode => "string_unicode"
  | .blankCharset | .notIdentifier _ => "value_error"

/-- The line under the name of the setting. -/
def line (violation : Violation) : String :=
  "  " ++ violation.message ++ " [type=" ++ violation.type ++ "]"

end Violation

namespace Violations

/-- The violations with the names of their settings, in order. -/
def toList (violations : Violations) : List (String × Violation) :=
  (violations.charset.map ("charset", ·)).toList
    ++ (violations.functionName.map ("function_name", ·)).toList

def message (violations : Violations) : String :=
  let listed := violations.toList
  let count := listed.length.repr ++ " validation error" ++ (if listed.length == 1 then "" else "s")
  "\n".intercalate ((count ++ " for TplgenConfig") :: listed.flatMap fun (name, violation) ↦
    [name, violation.line])

end Violations

def RawValue.toText : RawValue → Except Violation CodeText
  | .text value => .ok value
  | .bytes values =>
    match String.fromUTF8? ⟨values.toArray⟩ with
    | some value => .ok (.ofString value)
    | none => .error .notUnicode
  | .other => .error .notText

namespace Settings

/-- The charset that a raw value gives, without the blanks around it. -/
def charsetOf (value : RawValue) : Except Violation CodeText := do
  let trimmed := Text.trimBlanks (← value.toText)
  if trimmed.isEmpty then .error .blankCharset else return trimmed

/-- The function name that a raw value gives. -/
def functionNameOf (value : RawValue) : Except Violation String := do
  let name ← value.toText
  match name.chars?.filter Text.isIdentifier with
  | some characters => return .ofList characters
  | none => .error (.notIdentifier name)

/-- The settings that a draft gives. What it leaves out has its usual value. -/
def ofDraft (draft : Draft) : Except Violations Settings :=
  let usual : Settings := {}
  let charset := (draft.charset.map charsetOf).getD (.ok usual.charset)
  let functionName := (draft.functionName.map functionNameOf).getD (.ok usual.functionName)
  match charset, functionName with
  | .ok charset, .ok functionName => .ok ⟨charset, functionName⟩
  | .ok _, .error violation => .error ⟨none, some violation⟩
  | .error violation, .ok _ => .error ⟨some violation, none⟩
  | .error first, .error second => .error ⟨some first, some second⟩

def toDraft (settings : Settings) : Draft :=
  ⟨some (.text settings.charset), some (.text (.ofString settings.functionName))⟩

end Settings

/-- What one draft gives, and what another gives where the first gives nothing. -/
def Draft.orElse (draft other : Draft) : Draft :=
  ⟨draft.charset.or other.charset, draft.functionName.or other.functionName⟩

/-- The settings changed by what a draft gives. -/
def Settings.override (settings : Settings) (draft : Draft) : Except Violations Settings :=
  Settings.ofDraft (draft.orElse settings.toDraft)

end TemplateCalls
