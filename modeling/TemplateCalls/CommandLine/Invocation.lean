import TemplateCalls.CommandLine.Compilation
import TemplateCalls.CommandLine.Listing
import TemplateCalls.CommandLine.Options

/-!
# Invocations

A command line gives the options of the program, then a command and its own options and arguments.
The options that ask for the version or for help take effect as soon as the options around them have
been read without a fault, and before a missing argument is noticed.
-/

namespace TemplateCalls.CommandLine

open Files (Path)

def version : String := "0.1.0"

inductive Command where
  | showVersion
  | showHelp
  | list
  | compile (request : Request)
  deriving DecidableEq

/-- A command, and whether more of its trace is to be shown. -/
structure Invocation where
  command : Command
  verbose : Bool := false
  deriving DecidableEq

/-! ## Options of the program -/

inductive ProgramOption where
  | version
  | verbose
  | help
  deriving DecidableEq

def programOptions : List (OptionSpec ProgramOption) :=
  [{ key := .version, long := "--version" },
   { key := .verbose, short := some 'v', long := "--verbose" },
   { key := .help, long := "--help" }]

/-- The command that an option of the program stands for by itself. -/
def ProgramOption.command? : ProgramOption → Option Command
  | .version => some .showVersion
  | .help => some .showHelp
  | .verbose => none

def immediateCommand? (given : List (Given ProgramOption)) : Option Command :=
  given.findSome? (·.key.command?)

/-! ## Options of the commands -/

inductive CompileOption where
  | charset
  | config
  | wholeModule
  | help
  deriving DecidableEq

def compileOptions : List (OptionSpec CompileOption) :=
  [{ key := .charset, long := "--charset", takesValue := true },
   { key := .config, short := some 'c', long := "--config", takesValue := true },
   { key := .wholeModule, long := "--module" },
   { key := .help, long := "--help" }]

def lastValue? (given : List (Given CompileOption)) (option : CompileOption) : Option String :=
  (given.reverse.find? (·.key == option)).bind (·.value)

def isGiven (given : List (Given CompileOption)) (option : CompileOption) : Bool :=
  given.any (·.key == option)

def readCompile (arguments : List String) : Except UsageFault Command := do
  let (given, others) ← OptionSpec.read compileOptions true arguments
  if isGiven given .help then return .showHelp
  match others with
  | [] => .error .missingParameter
  | plugin :: arguments =>
    return .compile {
      plugin
      arguments
      charset := lastValue? given .charset
      file := (lastValue? given .config).map Path.ofString
      wholeModule := isGiven given .wholeModule }

/-- Reads the arguments of the command that lists plugins, which has only an option for help. -/
def readList (arguments : List String) : Except UsageFault Command := do
  let (given, others) ← OptionSpec.read [{ key := (), long := "--help" }] true arguments
  if !given.isEmpty then return .showHelp
  if others.isEmpty then return .list else .error .wrongUsage

/-! ## Whole command lines -/

/-- What is found where no command of this name exists. The options of the program are read once
more from there, and those that stand for a command by themselves still take effect. -/
def readUnknown (arguments : List String) : Except UsageFault Command := do
  let (given, _) ← OptionSpec.read programOptions false arguments
  match immediateCommand? given with
  | some command => return command
  | none => .error .wrongUsage

def readCommand (name : String) (arguments : List String) : Except UsageFault Command :=
  match name with
  | "list" => readList arguments
  | "compile" => readCompile arguments
  | _ => readUnknown (name :: arguments)

def Invocation.read (arguments : List String) : Except UsageFault Invocation := do
  if arguments.isEmpty then .error .noArguments
  let (given, others) ← OptionSpec.read programOptions false arguments
  match immediateCommand? given with
  | some command => return { command }
  | none =>
    match others with
    | [] => .error .wrongUsage
    | name :: arguments =>
      return ⟨← readCommand name arguments, given.any (·.key == .verbose)⟩

/-! ## Runs -/

def leastLevel (surroundings : Surroundings) (verbose : Bool) : Log.Level :=
  if surroundings.debug.any (!·.isEmpty) then .debug else if verbose then .info else .warning

def helpText : String :=
  "Usage: tplgen [--version] [-v] list\n"
    ++ "       tplgen [--version] [-v] compile PLUGIN [ARG...] "
    ++ "[--charset NAME] [-c FILE] [--module]"

def Command.run (surroundings : Surroundings) : Command → Outcome
  | .showVersion => ⟨0, outputLine ("tplgen " ++ version), "", []⟩
  | .showHelp => ⟨0, outputLine helpText, "", []⟩
  | .list => ⟨0, listing.render, "", []⟩
  | .compile request => runCompilation surroundings request

/-- Runs a command line. Of the trace only the records to be shown are left. -/
def run (surroundings : Surroundings) (arguments : List String) : Except UsageFault Outcome := do
  let invocation ← Invocation.read arguments
  let outcome := invocation.command.run surroundings
  return { outcome with
    trace := outcome.trace.shown (leastLevel surroundings invocation.verbose) }

/-- The path that a command is asked to read. -/
def Command.file? : Command → Option Path
  | .compile request => request.file
  | _ => none

/-- All paths that a run from a directory may look at. -/
def pathsToLookAt (directory : Path) (arguments : List String) : List Path :=
  match Invocation.read arguments with
  | .error _ => []
  | .ok invocation => invocation.command.file?.toList ++ Settings.candidates directory

end TemplateCalls.CommandLine
