import TemplateCalls.Proofs.CompilationOutcome
import TemplateCalls.Proofs.ProgramOptions

/-!
# Verbosity

How much is shown of a compilation is set by a variable of the environment and by options in front
of the command. It decides which records are shown and nothing else: two runs that differ in it are
refused together, or end with the same exit code, output and report. A run keeps its whole trace to
the end and shows a part of it. That is what its stages would log if each of them dropped a record
below the level on the spot, with records logged between effects that may fail.
-/

namespace TemplateCalls

/-! ## Records that are shown -/

namespace Log

/-- A trace after a record is logged, which is dropped if its level is too low. -/
def Trace.logged (least : Level) (trace : Trace) (record : Record) : Trace :=
  if least.rank ≤ record.level.rank then trace ++ [record] else trace

theorem Trace.shown_append (first second : Trace) (least : Level) :
    shown (first ++ second) least = first.shown least ++ second.shown least :=
  List.filter_append first second

theorem Trace.logged_eq (least : Level) (trace : Trace) (record : Record) :
    trace.logged least record = trace ++ shown [record] least := by
  rw [logged, shown, List.filter_singleton]
  by_cases hshown : least.rank ≤ record.level.rank
  · rw [if_pos hshown, decide_eq_true hshown]
    rfl
  · rw [if_neg hshown, decide_eq_false hshown]
    exact (List.append_nil trace).symm

/-- What is shown at a level can be told from what is shown at any lower one. -/
theorem Trace.shown_shown (trace : Trace) {least other : Level}
    (hlower : other.rank ≤ least.rank) :
    (trace.shown other).shown least = trace.shown least := by
  rw [shown, shown, List.filter_filter]
  refine List.filter_congr fun record _ ↦ ?_
  by_cases hshown : least.rank ≤ record.level.rank
  · rw [decide_eq_true hshown, decide_eq_true (Nat.le_trans hlower hshown)]
    rfl
  · rw [decide_eq_false hshown, Bool.false_and]

end Log

namespace CommandLine

open TemplateCalls.Outcome
open Log (Record Trace)
open OptionSpec (IsRead)
open RenderModule (ofSettings)

/-! ## Runs at a level -/

/-- A computation that logs records and may fail. What it logged before that stays logged. -/
abbrev Logging (α : Type) := ExceptT Failure (StateM Trace) α

def logAt (least : Log.Level) (record : Record) : Logging Unit :=
  modify fun trace ↦ trace.logged least record

def loadSelected (surroundings : Surroundings) (request : Request) :
    Except SettingsFault (Option Files.Path × Settings) := do
  let file ← selectFile surroundings request.file
  return (file, ← Settings.load surroundings.read surroundings.find surroundings.charset file)

/-- The settings of a compilation. The record of them is logged before the charset that is asked for
has been checked. -/
def resolveAt (least : Log.Level) (surroundings : Surroundings) (request : Request) :
    Logging Settings := do
  let (file, loaded) ← (loadSelected surroundings request).mapError SettingsFault.toFailure
  let asked := request.charset.map CodeText.ofString
  logAt least (settingsRecord file ((asked.filter (!·.isEmpty)).getD loaded.charset))
  ((loaded.override ⟨asked.map .text, none⟩).mapError .invalid).mapError SettingsFault.toFailure

def compileAt (least : Log.Level) (settings : Settings) (request : Request) : Logging String := do
  let target := ofSettings settings
  let (plugin, expression) ← (target.expressionOf (.named request.plugin) request.entries).mapError
    Fault.toFailure
  logAt least (callRecord plugin expression)
  if request.wholeModule then
    let target := target.withCall plugin expression
    logAt least (moduleRecord target)
    return target.source
  else return expression

/-- A compilation whose stages log at a level, one after another. -/
def compilationAt (least : Log.Level) (surroundings : Surroundings) (request : Request) :
    Logging String := do
  let settings ← resolveAt least surroundings request
  let code ← compileAt least settings request
  logAt least (successRecord request)
  return code

def Outcome.ofLogging : Except Failure String × Trace → Outcome
  | (.ok code, trace) => ⟨0, outputLine code, "", trace⟩
  | (.error failure, trace) => .ofFailure failure trace

/-- The settings are the same at every level, and the records of them are those to be shown. -/
theorem run_resolveAt (least : Log.Level) (surroundings : Surroundings) (request : Request)
    (trace : Trace) :
    (resolveAt least surroundings request).run.run trace =
      ((resolveSettings surroundings request).2.mapError SettingsFault.toFailure,
        trace ++ (resolveSettings surroundings request).1.shown least) := by
  rw [resolveAt]
  cases hselected : loadSelected surroundings request with
  | error fault =>
    have hresolved : resolveSettings surroundings request = ([], .error fault) := by
      rw [loadSelected] at hselected
      rw [resolveSettings, hselected]
    rw [hresolved]
    exact Prod.ext rfl (List.append_nil trace).symm
  | ok selected =>
    let asked := request.charset.map CodeText.ofString
    let named := (asked.filter (!·.isEmpty)).getD selected.2.charset
    have hresolved : resolveSettings surroundings request =
        ([settingsRecord selected.1 named],
          (selected.2.override ⟨asked.map .text, none⟩).mapError .invalid) := by
      rw [loadSelected] at hselected
      rw [resolveSettings, hselected]
    rw [hresolved]
    exact Prod.ext rfl (Trace.logged_eq least trace _)

/-- The stage gives what the request gives and keeps the records at or above the level. -/
theorem run_compileAt (least : Log.Level) (settings : Settings) (request : Request)
    (trace : Trace) :
    (compileAt least settings request).run.run trace =
      ((compileRequest settings request).2.mapError Fault.toFailure,
        trace ++ (compileRequest settings request).1.shown least) := by
  rw [compileRequest_eq, compileAt]
  cases (ofSettings settings).expressionOf (.named request.plugin) request.entries with
  | error fault => exact Prod.ext rfl (List.append_nil trace).symm
  | ok result =>
    cases request.wholeModule with
    | false => exact Prod.ext rfl (Trace.logged_eq least trace _)
    | true =>
      refine Prod.ext rfl ?_
      change (trace.logged least _).logged least _ = _
      rw [Trace.logged_eq, Trace.logged_eq, List.append_assoc, ← Trace.shown_append]
      rfl

/-- A compilation with its records dropped where they are logged ends as one with all records, and
leaves those that are shown. -/
theorem ofLogging_compilationAt (least : Log.Level) (surroundings : Surroundings)
    (request : Request) :
    Outcome.ofLogging ((compilationAt least surroundings request).run.run []) =
      { runCompilation surroundings request with
        trace := (runCompilation surroundings request).trace.shown least } := by
  rw [compilationAt, ExceptT.run_bind, StateT.run_bind, run_resolveAt]
  cases hresolved : (resolveSettings surroundings request).2 with
  | error fault =>
    rw [runCompilation_of_settingsFault hresolved]
    rfl
  | ok settings =>
    change Outcome.ofLogging ((compileAt least settings request >>= _).run.run _) = _
    rw [ExceptT.run_bind, StateT.run_bind, run_compileAt, compileRequest_snd]
    cases hcode : request.code settings with
    | error fault =>
      rw [runCompilation_of_fault hresolved hcode, Outcome.ofFailure, Trace.shown_append]
      rfl
    | ok code =>
      rw [runCompilation_of_code hresolved hcode, Trace.shown_append, Trace.shown_append,
        ← Trace.logged_eq]
      rfl

/-! ## Two runs -/

/-- What is done does not depend on how much is shown of it. -/
theorem run_options (surroundings : Surroundings) {options separator : List String}
    (arguments : List String) (hoptions : ∀ option ∈ options, IsRead option)
    (hseparator : separator = [] ∨ separator = ["--"]) :
    run surroundings (options ++ separator ++ "compile" :: arguments) = do
      let outcome := (← commandOf options arguments).run surroundings
      return { outcome with
        trace := outcome.trace.shown (leastLevel surroundings (options.any asksForRecords)) } := by
  rw [run, read_options arguments hoptions hseparator, commandOf]
  cases hasked : askedFor options with
  | error fault => rfl
  | ok command? =>
    cases command? with
    | none => cases readCompile arguments <;> rfl
    | some command => rcases eq_of_askedFor hasked with rfl | rfl <;> rfl

theorem run_debug (command : Command) (surroundings : Surroundings) (debug : Option String) :
    command.run { surroundings with debug } = command.run surroundings := by
  cases command <;> rfl

/-- Two runs end alike, and if the other one is to show no less, the first shows those of its
records that are at or above a level. -/
structure DifferInRecords (least otherLeast : Log.Level) (outcome other : Outcome) : Prop where
  exitCode : outcome.exitCode = other.exitCode
  output : outcome.output = other.output
  errors : outcome.errors = other.errors
  trace : otherLeast.rank ≤ least.rank →
    outcome.trace = other.trace.filter fun record ↦ least.rank ≤ record.level.rank

/-- However much is to be shown of two runs of a compilation, they are refused together or end
alike, and the run that is to show less shows those records of the other that are at or above its
level. They are the records that its stages log at this level. -/
theorem run_compile_differs_in_records (surroundings : Surroundings)
    (debug otherDebug : Option String) {options others separator : List String}
    (arguments : List String) (hoptions : ∀ option ∈ options, IsRead option)
    (hothers : ∀ option ∈ others, IsRead option)
    (hsame : options.filter (!asksForRecords ·) = others.filter (!asksForRecords ·))
    (hseparator : separator = [] ∨ separator = ["--"]) :
    let first := { surroundings with debug }
    let second := { surroundings with debug := otherDebug }
    let line := options ++ separator ++ "compile" :: arguments
    let otherLine := others ++ separator ++ "compile" :: arguments
    let least := leastLevel first (options.any asksForRecords)
    let otherLeast := leastLevel second (others.any asksForRecords)
    ((∃ fault, run first line = .error fault ∧ run second otherLine = .error fault) ∨
      ∃ outcome other, run first line = .ok outcome ∧ run second otherLine = .ok other ∧
        DifferInRecords least otherLeast outcome other) ∧
    ∀ request verbose, Invocation.read line = .ok ⟨.compile request, verbose⟩ →
      run first line = .ok (Outcome.ofLogging ((compilationAt least first request).run.run [])) := by
  intro first second line otherLine least otherLeast
  have hfirst := run_options first arguments hoptions hseparator
  have hsecond := run_options second arguments hothers hseparator
  rw [← commandOf_congr hsame] at hsecond
  constructor
  · cases hcommand : commandOf options arguments with
    | error fault =>
      rw [hcommand] at hfirst hsecond
      exact .inl ⟨fault, hfirst, hsecond⟩
    | ok command =>
      rw [hcommand, ok_bind, run_debug] at hfirst hsecond
      refine .inr ⟨_, _, hfirst, hsecond, rfl, rfl, rfl, fun hlower ↦ ?_⟩
      exact (Trace.shown_shown _ hlower).symm
  · intro request verbose hread
    rw [run_of_read hread, ofLogging_compilationAt,
      verbose_of_read_options arguments hoptions hseparator hread]

/-- A module is compiled with its records at level INFO and with all of them. -/
theorem run_compile_differs_in_records_module :
    let quiet : Surroundings := { directory := Files.Path.ofString "/", find := fun _ ↦ .nothing }
    let debugging := { quiet with debug := some "1" }
    let line := ["-vv", "--", "compile", "whitespace", "x", "--module"]
    let plainLine := ["--", "compile", "whitespace", "x", "--module"]
    (∀ option ∈ ["-vv"], IsRead option) ∧
    ["-vv"].filter (!asksForRecords ·) = [] ∧
    ∃ outcome other, run quiet line = .ok outcome ∧ run debugging plainLine = .ok other ∧
      outcome.output = other.output ∧
      outcome.trace = other.trace.filter (fun record ↦ Log.Level.info.rank ≤ record.level.rank) ∧
      outcome.trace.length = 2 ∧ other.trace.length = 4 := by
  intro quiet debugging line plainLine
  have hoptions : ∀ option ∈ ["-vv"], IsRead option := by decide
  have hnone : ∀ option ∈ ([] : List String), IsRead option := List.forall_mem_nil _
  have hsame : ["-vv"].filter (!asksForRecords ·) = [] := by decide
  have hseparator : ["--"] = [] ∨ ["--"] = ["--"] := .inr rfl
  have hcount : (run quiet line).toOption.map (·.trace.length) = some 2 ∧
      (run debugging plainLine).toOption.map (·.trace.length) = some 4 := by decide +kernel
  obtain ⟨⟨fault, hfault, _⟩ | ⟨outcome, other, hfirst, hsecond, hdiffer⟩, _⟩ :=
    run_compile_differs_in_records quiet none (some "1") ["whitespace", "x", "--module"] hoptions
      hnone hsame hseparator
  · have hrefused : run quiet line = .error fault := hfault
    rw [hrefused] at hcount
    exact nomatch hcount.1
  · have houtcome : run quiet line = .ok outcome := hfirst
    have hother : run debugging plainLine = .ok other := hsecond
    rw [houtcome, hother] at hcount
    exact ⟨hoptions, hsame, outcome, other, hfirst, hsecond, hdiffer.output,
      hdiffer.trace (Nat.zero_le _), Option.some.inj hcount.1, Option.some.inj hcount.2⟩

end CommandLine

end TemplateCalls
