import TemplateCalls.CommandLine.Invocation

/-!
# The program

The program looks at its surroundings, runs its command line there, writes what the run leaves
behind, and ends with its exit code. All that it may look at is known from the command line and the
directory in which it is started, so that it looks first and the run itself does nothing.
-/

namespace TemplateCalls.CommandLine

open Files (Path Found)

/-- What a path leads to. -/
def look (path : Path) : IO Found := do
  let place := (← IO.currentDir) / path.toString
  try
    match (← place.metadata).type with
    | .dir => return .directory
    | _ => return .file (← IO.FS.readFile place)
  catch
    | .invalidArgument .. => return .nameTooLong
    | .noFileOrDirectory .. | .inappropriateType .. => return .nothing
    | fault => throw fault

/-- What a run with these arguments sees. -/
def lookAround (arguments : List String) : IO Surroundings := do
  let directory := Path.ofString (← IO.currentDir).toString
  let known ← (pathsToLookAt directory arguments).mapM fun path ↦ return (path, ← look path)
  return {
    directory
    find := fun path ↦ (known.lookup path).getD .nothing
    charset := ← IO.getEnv "TPLGEN_CHARSET"
    debug := ← IO.getEnv "TPLGEN_DEBUG" }

end TemplateCalls.CommandLine

open TemplateCalls CommandLine in
def main (arguments : List String) : IO UInt32 := do
  match run (← lookAround arguments) arguments with
  | .error _ =>
    IO.eprintln helpText
    return 2
  | .ok outcome =>
    for record in outcome.trace do
      IO.eprintln (record.level.name ++ " " ++ record.source ++ ": " ++ record.text)
    IO.print outcome.output
    IO.eprint outcome.errors
    return outcome.exitCode.toNat.toUInt32
