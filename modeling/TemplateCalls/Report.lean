import TemplateCalls.Fault
import TemplateCalls.Settings.Loading

/-!
# Reports and log records

A failure that the program knows of is reported as an error and ends it with an exit code of its
own. Any other failure is reported as unexpected and ends it with exit code 1. Texts are written
without the control sequences that style them on a terminal. A run also leaves a trace of records,
of which those at or above a level are shown. What is shown never changes what is done.
-/

namespace TemplateCalls

/-- A character between the bracket and the last letter of a control sequence. -/
def isStyleParameter (character : Char) : Bool :=
  character.isDigit || character == ';' || character == '?'

/-- The text after a control sequence, if the text after an escape character goes on as one. -/
def afterStyle? : List Char → Option (List Char)
  | '[' :: rest =>
    match rest.dropWhile isStyleParameter with
    | final :: rest => if final.isAlpha then some rest else none
    | [] => none
  | _ => none

/-- The text without control sequences. The number bounds its length. -/
def withoutStyles : Nat → List Char → List Char
  | 0, _ => []
  | _, [] => []
  | fuel + 1, character :: rest =>
    match if character == '\x1B' then afterStyle? rest else none with
    | some rest => withoutStyles fuel rest
    | none => character :: withoutStyles fuel rest

def outputLine (text : String) : String :=
  let line := text.toList ++ ['\n']
  .ofList (withoutStyles line.length line)

structure Failure where
  message : String
  exitCode : Option Int
  deriving DecidableEq, Repr

namespace Failure

def reportedCode (failure : Failure) : Int := failure.exitCode.getD 1

def report (failure : Failure) : String :=
  match failure.exitCode with
  | some _ => outputLine ("Error: " ++ failure.message)
  | none => outputLine ("Unexpected error: " ++ failure.message)

end Failure

def Fault.toFailure (fault : Fault) : Failure :=
  match fault with
  | .malformed _ => ⟨fault.message, some 1⟩
  | .unknownPlugin _ => ⟨fault.message, some 2⟩
  | .numeral _ | .missingOperand _ | .keyNotText _ | .foreign _ _ => ⟨fault.message, none⟩

def SettingsFault.toFailure (fault : SettingsFault) : Failure :=
  ⟨fault.message, if fault.isConfiguration then some 1 else none⟩

end TemplateCalls

namespace TemplateCalls.Log

inductive Level where
  | debug
  | info
  | warning
  deriving DecidableEq, Repr

def Level.name : Level → String
  | .debug => "DEBUG"
  | .info => "INFO"
  | .warning => "WARNING"

def Level.rank : Level → Nat
  | .debug => 0
  | .info => 1
  | .warning => 2

structure Record where
  level : Level
  source : String
  text : String
  deriving DecidableEq, Repr

abbrev Trace := List Record

/-- The records at or above a level. -/
def Trace.shown (trace : Trace) (least : Level) : Trace :=
  trace.filter fun record ↦ least.rank ≤ record.level.rank

end TemplateCalls.Log
