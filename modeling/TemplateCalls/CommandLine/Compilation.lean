import TemplateCalls.RenderModule
import TemplateCalls.Report
import TemplateCalls.Yaml.Document

/-!
# Compiling one call

A compilation finds the settings, compiles a call with them, and writes either the expression or a
whole module with this one piece. It writes all of its output or reports one failure, and a fault of
the settings is reported in preference to any fault of the call. Its trace does not depend on what
is shown of it.
-/

namespace TemplateCalls.CommandLine

open Files (Path Found)
open Log (Record Trace)

/-- What a run sees of the world: where it is started, what paths lead to, how the text of a file is
read, and two variables of the environment. -/
structure Surroundings where
  directory : Path
  find : Path → Found
  read : Yaml.Reader := Yaml.readDocument
  charset : Option String := none
  debug : Option String := none

structure Request where
  plugin : String
  arguments : List String := []
  charset : Option String := none
  file : Option Path := none
  wholeModule : Bool := false
  deriving DecidableEq

structure Outcome where
  exitCode : Int
  output : String
  errors : String
  trace : Trace
  deriving DecidableEq, Repr

/-! ## Settings -/

/-- The file with settings: the one asked for, which must exist, or the nearest one. -/
def selectFile (surroundings : Surroundings) (file : Option Path) :
    Except SettingsFault (Option Path) :=
  match file with
  | none => Settings.nearest surroundings.find surroundings.directory
  | some path =>
    match surroundings.find path with
    | .nothing => .error (.fileNotFound path)
    | .nameTooLong => .error (.nameTooLong path)
    | _ => .ok (some path)

def settingsRecord (file : Option Path) (charset : CodeText) : Record where
  level := .info
  source := "tplgen.commands.utils"
  text := "using config " ++ (file.map Path.toString).getD "(defaults)" ++ " (charset "
    ++ charset.toString ++ ")"

/-- The settings of a file, with the charset that is asked for in place of its own. -/
def resolveSettings (surroundings : Surroundings) (request : Request) :
    Trace × Except SettingsFault Settings :=
  let loaded := do
    let file ← selectFile surroundings request.file
    return (file, ← Settings.load surroundings.read surroundings.find surroundings.charset file)
  match loaded with
  | .error fault => ([], .error fault)
  | .ok (file, settings) =>
    let asked := request.charset.map CodeText.ofString
    let named := (asked.filter (!·.isEmpty)).getD settings.charset
    ([settingsRecord file named], (settings.override ⟨asked.map .text, none⟩).mapError .invalid)

/-! ## Code -/

def callRecord (plugin : Plugin) (code : String) : Record where
  level := .debug
  source := "tplgen.lib.plugin"
  text := "compiled " ++ plugin.fullName ++ " call: " ++ code

def moduleRecord (target : RenderModule) : Record where
  level := .debug
  source := "tplgen.lib.compiler"
  text := "compiled " ++ target.functionName ++ " with " ++ target.pieces.length.repr
    ++ " piece(s), imports: "
    ++ (if target.imports.isEmpty then "(none)" else ", ".intercalate target.imports)

def compileRequest (settings : Settings) (request : Request) : Trace × Except Fault String :=
  let entries := request.arguments.map fun raw ↦ Entry.argument (.ofCommandLine raw)
  match (Reference.named request.plugin).resolve with
  | .error fault => ([], .error fault)
  | .ok plugin =>
    if request.wholeModule then
      let change := RenderModule.addCall (.external plugin) entries
      match (RenderModule.ofSettings settings).perform change with
      | (.error fault, _) => ([], .error fault)
      | (.ok code, target) => ([callRecord plugin code, moduleRecord target], .ok target.source)
    else
      match plugin.compile settings.context entries with
      | .error fault => ([], .error fault)
      | .ok code => ([callRecord plugin code], .ok code)

/-! ## Runs -/

def successRecord (request : Request) : Record where
  level := .info
  source := "tplgen.commands.compile"
  text := "compiled " ++ request.plugin ++ " with " ++ request.arguments.length.repr
    ++ " argument(s)"

def Outcome.ofFailure (failure : Failure) (trace : Trace) : Outcome :=
  ⟨failure.reportedCode, "", failure.report, trace⟩

def runCompilation (surroundings : Surroundings) (request : Request) : Outcome :=
  match resolveSettings surroundings request with
  | (trace, .error fault) => .ofFailure fault.toFailure trace
  | (trace, .ok settings) =>
    match compileRequest settings request with
    | (more, .error fault) => .ofFailure fault.toFailure (trace ++ more)
    | (more, .ok code) => ⟨0, outputLine code, "", trace ++ more ++ [successRecord request]⟩

end TemplateCalls.CommandLine
