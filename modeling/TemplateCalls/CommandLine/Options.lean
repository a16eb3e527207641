/-!
# Options on a command line

An option has one or more names, short ones of a dash and a letter and long ones of two dashes and a
word, and may take a value. The value of a long option follows after an equals sign or as the next
argument, that of a short one in the same argument or as the next. Short options without a value may
share an argument. Two dashes end the options, and a dash alone is no option. Options may stand
among other arguments, or only before them.
-/

namespace TemplateCalls.CommandLine

inductive UsageFault where
  | noSuchOption
  | missingParameter
  | badOptionUsage
  | wrongUsage
  | noArguments
  deriving DecidableEq, Repr

/-- An option, named by a key of its own. -/
structure OptionSpec (κ : Type) where
  key : κ
  short : Option Char := none
  long : String
  takesValue : Bool := false

/-- An option that is given, with its value if it takes one. -/
structure Given (κ : Type) where
  key : κ
  value : Option String

namespace OptionSpec

variable {κ : Type}

/-- What one argument gives, and whether it takes the next argument as a value. -/
structure Reading (κ : Type) where
  given : List (Given κ)
  takesNext : Bool

def withNext (spec : OptionSpec κ) : Option String → Except UsageFault (Reading κ)
  | some next => .ok ⟨[⟨spec.key, some next⟩], true⟩
  | none => .error .badOptionUsage

/-- Reads a long option, with the value written in the same argument. -/
def readLong (spec : OptionSpec κ) (value next : Option String) :
    Except UsageFault (Reading κ) :=
  match spec.takesValue, value with
  | true, some value => .ok ⟨[⟨spec.key, some value⟩], false⟩
  | true, none => spec.withNext next
  | false, some _ => .error .badOptionUsage
  | false, none => .ok ⟨[⟨spec.key, none⟩], false⟩

/-- Reads the letters after a dash. -/
def readShort (specs : List (OptionSpec κ)) (next : Option String) :
    List Char → Except UsageFault (Reading κ)
  | [] => .ok ⟨[], false⟩
  | letter :: letters =>
    match specs.find? (·.short == some letter) with
    | none => .error .noSuchOption
    | some spec =>
      if spec.takesValue then
        if letters.isEmpty then spec.withNext next
        else .ok ⟨[⟨spec.key, some (.ofList letters)⟩], false⟩
      else do
        let ⟨given, takesNext⟩ ← readShort specs next letters
        return ⟨⟨spec.key, none⟩ :: given, takesNext⟩

/-- The name of a long option and the value after the first equals sign. -/
def splitLong (argument : List Char) : List Char × Option String :=
  match argument.dropWhile (· != '=') with
  | '=' :: value => (argument.takeWhile (· != '='), some (.ofList value))
  | _ => (argument, none)

/-- Reads the options in one argument, given the next one. -/
def readOption (specs : List (OptionSpec κ)) (argument : List Char) (next : Option String) :
    Except UsageFault (Reading κ) :=
  let (name, value) := splitLong argument
  match specs.find? (·.long.toList == name) with
  | some spec => spec.readLong value next
  | none =>
    match argument with
    | '-' :: '-' :: _ => .error .noSuchOption
    | _ => readShort specs next argument.tail

def isOption (argument : List Char) : Bool := argument.head? == some '-' && 1 < argument.length

/-- Reads a command line from an argument on, which may have been taken as a value already. -/
def readFrom (specs : List (OptionSpec κ)) (amongArguments : Bool) :
    Bool → List String → Except UsageFault (List (Given κ) × List String)
  | _, [] => .ok ([], [])
  | true, _ :: rest => readFrom specs amongArguments false rest
  | false, argument :: rest =>
    if argument == "--" then .ok ([], rest)
    else if isOption argument.toList then do
      let ⟨given, takesNext⟩ ← readOption specs argument.toList rest.head?
      let (more, others) ← readFrom specs amongArguments takesNext rest
      return (given ++ more, others)
    else if amongArguments then do
      let (given, others) ← readFrom specs amongArguments false rest
      return (given, argument :: others)
    else .ok ([], argument :: rest)

/-- Reads a command line: the options in it, and the other arguments in order. -/
def read (specs : List (OptionSpec κ)) (amongArguments : Bool) (arguments : List String) :
    Except UsageFault (List (Given κ) × List String) :=
  readFrom specs amongArguments false arguments

end OptionSpec

end TemplateCalls.CommandLine
