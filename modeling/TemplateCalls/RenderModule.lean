import TemplateCalls.Plugin.Registry
import TemplateCalls.Settings

/-!
# Render modules

A render module collects texts and plugin calls in the order of output. Its source imports the
modules that the calls need and defines one function, which appends each piece to a list and returns
the joined output. A call that is refused leaves the module as it was.
-/

namespace TemplateCalls

def Settings.context (settings : Settings) : Context := ⟨settings.charset⟩

/-- Adds a name to names in strictly increasing order. -/
def insertName (name : String) : List String → List String
  | [] => [name]
  | other :: rest =>
    if name < other then name :: other :: rest
    else if name = other then other :: rest
    else other :: insertName name rest

structure RenderModule where
  context : Context
  functionName : String := "render"
  pieces : List String := []
  imports : List String := []

namespace RenderModule

/-- The empty module that settings ask for. -/
def ofSettings (settings : Settings) : RenderModule where
  context := settings.context
  functionName := settings.functionName

/-! ## Changes -/

/-- A change of a render module, which may be refused. What it did before that stays done. -/
abbrev Change (α : Type) := ExceptT Fault (StateM RenderModule) α

/-- Makes a change: what it gives, and the module after it. -/
def perform {α : Type} (target : RenderModule) (change : Change α) :
    Except Fault α × RenderModule :=
  (change.run.run target).run

def addImports (names : List String) : Change Unit :=
  modify fun target ↦
    { target with imports := names.foldl (fun names name ↦ insertName name names) target.imports }

def addPiece (piece : String) : Change Unit :=
  modify fun target ↦ { target with pieces := target.pieces ++ [piece] }

/-- Adds literal output. The empty text adds nothing. -/
def addText (text : String) : Change Unit :=
  if text.isEmpty then pure () else addPiece (Text.quote text)

/-- Adds a call and returns its expression. -/
def addCall (reference : Reference) (entries : List Entry) : Change String := do
  let plugin ← reference.resolve
  let code ← plugin.compile (← get).context entries
  addImports plugin.imports
  addPiece code
  return code

/-! ## Source -/

def importLines (imports : List String) : List String :=
  if imports.isEmpty then [] else imports.map ("import " ++ ·) ++ ["", ""]

def appendLine (piece : String) : String := "    _out.append(str(" ++ piece ++ "))"

/-- The lines of the source; the last of them is empty. -/
def lines (target : RenderModule) : List String :=
  importLines target.imports
    ++ ["def " ++ target.functionName ++ "(self):", "    _out = []"]
    ++ target.pieces.map appendLine
    ++ ["    return ''.join(_out)", ""]

def source (target : RenderModule) : String := "\n".intercalate target.lines

/-! ## Runs of steps -/

inductive Step where
  | text (output : String)
  | call (reference : Reference) (entries : List Entry)
  | compile

/-- The change that a step makes. It gives nothing for a text, the expression for a call and the
source for a compilation. -/
def Step.change : Step → Change (Option String)
  | .text output => do
    addText output
    return none
  | .call reference entries => return some (← addCall reference entries)
  | .compile => return some (← get).source

def step (target : RenderModule) (step : Step) : Except Fault (Option String) × RenderModule :=
  target.perform step.change

/-- Takes steps one after another, whatever becomes of those before: their results, and the module
after them. -/
def run (target : RenderModule) : List Step → List (Except Fault (Option String)) × RenderModule
  | [] => ([], target)
  | step :: rest =>
    let (result, next) := target.step step
    let (results, last) := run next rest
    (result :: results, last)

end RenderModule

end TemplateCalls
