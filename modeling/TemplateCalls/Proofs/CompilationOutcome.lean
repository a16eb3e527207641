import TemplateCalls.CommandLine.Invocation
import TemplateCalls.Proofs.CallFaults
import TemplateCalls.Proofs.StepRuns
import TemplateCalls.Proofs.Styles

/-!
# What a compilation leaves behind

A compilation ends in one of three ways: with the code as its whole output and no report, with the
report of an unknown plugin and exit code 2, or with another report and exit code 1. A fault of the
settings is reported in preference to an unknown plugin, and that in preference to any fault of the
arguments. The record of success is in the trace exactly if there is code. The code is written as it
stands only if no control sequence occurs in it.
-/

namespace TemplateCalls

/-- No fault is reported as a success. -/
theorem Fault.reportedCode_ne_zero (fault : Fault) : fault.toFailure.reportedCode ≠ 0 := by
  cases fault <;> simp [Fault.toFailure, Failure.reportedCode]

theorem SettingsFault.reportedCode_eq_one (fault : SettingsFault) :
    fault.toFailure.reportedCode = 1 := by
  rw [SettingsFault.toFailure, Failure.reportedCode]
  cases fault.isConfiguration <;> rfl

end TemplateCalls

namespace TemplateCalls.CommandLine

open TemplateCalls.Outcome
open Log (Record Trace)
open RenderModule (ofSettings)

variable {surroundings : Surroundings} {request : Request} {settings : Settings}

/-! ## Code -/

def Request.entries (request : Request) : List Entry :=
  request.arguments.map fun raw ↦ .argument (.ofCommandLine raw)

/-- The code that is asked for: the expression of the call, or the source of a module after it. -/
def Request.code (request : Request) (settings : Settings) : Except Fault String := do
  let reference := Reference.named request.plugin
  let code ← compileCall settings.context reference request.entries
  if request.wholeModule then
    return ((ofSettings settings).step (.call reference request.entries)).2.source
  else return code

/-- A compilation compiles one call, in a module of its own if that is asked for. -/
theorem compileRequest_eq (settings : Settings) (request : Request) :
    compileRequest settings request =
      match (ofSettings settings).expressionOf (.named request.plugin) request.entries with
      | .error fault => ([], .error fault)
      | .ok (plugin, code) =>
        let target := (ofSettings settings).withCall plugin code
        if request.wholeModule then
          ([callRecord plugin code, moduleRecord target], .ok target.source)
        else ([callRecord plugin code], .ok code) := by
  have hentries : (request.arguments.map fun raw ↦ Entry.argument (.ofCommandLine raw)) =
      request.entries := rfl
  have hcontext : (ofSettings settings).context = settings.context := rfl
  unfold compileRequest
  cases hresolve : (Reference.named request.plugin).resolve with
  | error fault => simp only [RenderModule.expressionOf, hresolve, error_bind]
  | ok plugin =>
    have hexternal : (Reference.external plugin).resolve = .ok plugin := rfl
    simp only [hentries, RenderModule.perform_addCall,
      RenderModule.expressionOf_of_resolve hexternal, RenderModule.expressionOf_of_resolve hresolve,
      hcontext]
    cases plugin.compile settings.context request.entries with
    | error fault => exact ite_self _
    | ok code => rfl

theorem compileRequest_snd (settings : Settings) (request : Request) :
    (compileRequest settings request).2 = request.code settings := by
  have hcontext : settings.context = (ofSettings settings).context := rfl
  simp only [compileRequest_eq, Request.code, RenderModule.step_call, hcontext,
    RenderModule.compileCall_eq_map_expressionOf]
  cases (ofSettings settings).expressionOf (.named request.plugin) request.entries with
  | error fault => rfl
  | ok result => cases request.wholeModule <;> rfl

theorem Request.argument?_isSome (request : Request) :
    ∀ entry ∈ request.entries, entry.argument?.isSome = true := by
  intro entry hentry
  obtain ⟨raw, _, rfl⟩ := List.mem_map.mp hentry
  rfl

theorem Request.code_eq_error_iff {fault : Fault} :
    request.code settings = .error fault ↔
      compileCall settings.context (.named request.plugin) request.entries = .error fault := by
  rw [Request.code]
  cases compileCall settings.context (.named request.plugin) request.entries with
  | error other => rfl
  | ok code =>
    refine ⟨fun hcode ↦ ?_, nofun⟩
    cases hmodule : request.wholeModule <;> simp [hmodule] at hcode

/-- The code of an unknown plugin is refused whatever the arguments are. -/
theorem Request.code_of_unknown (settings : Settings)
    (hunknown : ∀ plugin ∈ Plugin.registry, ¬plugin.IsNamed request.plugin) :
    request.code settings = .error (.unknownPlugin request.plugin) :=
  code_eq_error_iff.mpr
    (compileCall_of_find?_eq_none _ (Plugin.find?_eq_none_iff.mpr hunknown) _)

/-- The code of a known plugin is refused with exit code 1. -/
theorem Request.reportedCode_of_known {fault : Fault}
    (hknown : ¬∀ plugin ∈ Plugin.registry, ¬plugin.IsNamed request.plugin)
    (hfault : request.code settings = .error fault) : fault.toFailure.reportedCode = 1 := by
  rw [← Plugin.find?_eq_none_iff, ← ne_eq, Option.ne_none_iff_exists'] at hknown
  obtain ⟨plugin, hfind⟩ := hknown
  rcases compileCall_error_cases request.argument?_isSome hfind (code_eq_error_iff.mp hfault) with
    ⟨cause, rfl⟩ | ⟨_, overflow, rfl⟩ <;> rfl

/-! ## Runs -/

/-- Without settings nothing is compiled. -/
theorem runCompilation_of_settingsFault {fault : SettingsFault}
    (hfault : (resolveSettings surroundings request).2 = .error fault) :
    runCompilation surroundings request =
      .ofFailure fault.toFailure (resolveSettings surroundings request).1 := by
  have hresolved : resolveSettings surroundings request = (_, .error fault) := Prod.ext rfl hfault
  rw [runCompilation, hresolved]

/-- With settings, a fault of generation ends the run. -/
theorem runCompilation_of_fault {fault : Fault}
    (hsettings : (resolveSettings surroundings request).2 = .ok settings)
    (hfault : request.code settings = .error fault) :
    runCompilation surroundings request =
      .ofFailure fault.toFailure
        ((resolveSettings surroundings request).1 ++ (compileRequest settings request).1) := by
  have hresolved : resolveSettings surroundings request = (_, .ok settings) :=
    Prod.ext rfl hsettings
  have hcompiled : compileRequest settings request = (_, .error fault) :=
    Prod.ext rfl ((compileRequest_snd settings request).trans hfault)
  rw [runCompilation, hresolved]
  dsimp only
  rw [hcompiled]

/-- With settings and code, the code is put out and a record tells so. -/
theorem runCompilation_of_code {code : String}
    (hsettings : (resolveSettings surroundings request).2 = .ok settings)
    (hcode : request.code settings = .ok code) :
    runCompilation surroundings request =
      ⟨0, outputLine code, "",
        (resolveSettings surroundings request).1 ++ (compileRequest settings request).1
          ++ [successRecord request]⟩ := by
  have hresolved : resolveSettings surroundings request = (_, .ok settings) :=
    Prod.ext rfl hsettings
  have hcompiled : compileRequest settings request = (_, .ok code) :=
    Prod.ext rfl ((compileRequest_snd settings request).trans hcode)
  rw [runCompilation, hresolved]
  dsimp only
  rw [hcompiled]

/-- A run whose arguments are read shows the records of the compilation at its level. -/
theorem run_of_read {arguments : List String} {verbose : Bool}
    (hread : Invocation.read arguments = .ok ⟨.compile request, verbose⟩) :
    run surroundings arguments =
      .ok { runCompilation surroundings request with
        trace := (runCompilation surroundings request).trace.shown
          (leastLevel surroundings verbose) } := by
  rw [run, hread, ok_bind]
  rfl

/-! ## Traces -/

theorem source_of_mem_resolveSettings {record : Record}
    (hrecord : record ∈ (resolveSettings surroundings request).1) :
    record.source = "tplgen.commands.utils" := by
  rw [resolveSettings] at hrecord
  split at hrecord
  · cases hrecord
  · rw [List.mem_singleton.mp hrecord]
    rfl

theorem source_of_mem_compileRequest {record : Record}
    (hrecord : record ∈ (compileRequest settings request).1) :
    record.source = "tplgen.lib.plugin" ∨ record.source = "tplgen.lib.compiler" := by
  rw [compileRequest_eq] at hrecord
  split at hrecord
  · cases hrecord
  · dsimp only at hrecord
    split at hrecord
    · rcases List.mem_pair.mp hrecord with rfl | rfl
      · exact .inl rfl
      · exact .inr rfl
    · rw [List.mem_singleton.mp hrecord]
      exact .inl rfl

/-- The record of a success is never among those of the settings. -/
theorem successRecord_not_mem_resolveSettings (surroundings : Surroundings) (request : Request) :
    successRecord request ∉ (resolveSettings surroundings request).1 := fun hrecord ↦
  absurd (source_of_mem_resolveSettings hrecord) (by simp [successRecord])

/-- The record of a success is never among those of the generation. -/
theorem successRecord_not_mem_compileRequest (settings : Settings) (request : Request) :
    successRecord request ∉ (compileRequest settings request).1 := fun hrecord ↦
  absurd (source_of_mem_compileRequest hrecord) (by simp [successRecord])

/-- Records at or above the level are kept as often as they occur. -/
theorem count_shown (trace : Trace) (least : Log.Level) (record : Record) :
    (trace.shown least).count record =
      if least.rank ≤ record.level.rank then trace.count record else 0 := by
  rw [Log.Trace.shown]
  split
  · next hshown => exact List.count_filter (by simpa using hshown)
  · next hhidden =>
    refine List.count_eq_zero.mpr fun hrecord ↦ hhidden ?_
    simpa using (List.mem_filter.mp hrecord).2

/-! ## All or nothing -/

/-- A line that reports a failure. -/
def IsReport (line : String) : Prop :=
  ∃ message, line = outputLine ("Error: " ++ message) ∨
    line = outputLine ("Unexpected error: " ++ message)

theorem isReport_report (failure : Failure) : IsReport failure.report := by
  rw [Failure.report]
  cases failure.exitCode with
  | some code => exact ⟨_, .inl rfl⟩
  | none => exact ⟨_, .inr rfl⟩

theorem report_unknownPlugin (reference : String) :
    (Fault.unknownPlugin reference).toFailure.report =
      outputLine ("Error: Unknown plugin: " ++ reference) := by
  have hline : "Error: Unknown plugin: " ++ reference =
      "Error: " ++ ("Unknown plugin: " ++ reference) := by
    rw [← String.append_assoc]
    rfl
  rw [hline]
  rfl

/-- The code is the whole output, or there is no output but one report, which has an exit code of
its own for an unknown plugin. -/
def AllOrNothing (surroundings : Surroundings) (request : Request) (outcome : Outcome) : Prop :=
  (outcome.exitCode = 0 ∧ outcome.errors = "" ∧ ∃ settings code,
    (resolveSettings surroundings request).2 = .ok settings ∧ request.code settings = .ok code ∧
    outcome.output = outputLine code ∧
    (outcome.output = code ++ "\n" ↔ ¬HasStyle code.toList)) ∨
  (outcome.exitCode = 2 ∧ outcome.output = "" ∧
    outcome.errors = outputLine ("Error: Unknown plugin: " ++ request.plugin) ∧
    (outcome.errors = "Error: Unknown plugin: " ++ request.plugin ++ "\n" ↔
      ¬HasStyle request.plugin.toList)) ∨
  (outcome.exitCode = 1 ∧ outcome.output = "" ∧ IsReport outcome.errors)

inductive Ends (surroundings : Surroundings) (request : Request) : Outcome → Prop
  | code (settings : Settings) (code : String) (trace : Trace)
      (hresolved : (resolveSettings surroundings request).2 = .ok settings)
      (hcode : request.code settings = .ok code) :
    Ends surroundings request ⟨0, outputLine code, "", trace⟩
  | unknown (settings : Settings) (trace : Trace)
      (hresolved : (resolveSettings surroundings request).2 = .ok settings)
      (hunknown : ∀ plugin ∈ Plugin.registry, ¬plugin.IsNamed request.plugin) :
    Ends surroundings request
      ⟨2, "", outputLine ("Error: Unknown plugin: " ++ request.plugin), trace⟩
  | refused (settings : Settings) (fault : Fault) (trace : Trace)
      (hresolved : (resolveSettings surroundings request).2 = .ok settings)
      (hknown : ¬∀ plugin ∈ Plugin.registry, ¬plugin.IsNamed request.plugin)
      (hfault : request.code settings = .error fault) :
    Ends surroundings request ⟨1, "", fault.toFailure.report, trace⟩
  | settings (fault : SettingsFault) (trace : Trace)
      (hresolved : (resolveSettings surroundings request).2 = .error fault) :
    Ends surroundings request ⟨1, "", fault.toFailure.report, trace⟩

/-- Every compilation comes to one of the three ends. -/
theorem ends_runCompilation (surroundings : Surroundings) (request : Request) :
    Ends surroundings request (runCompilation surroundings request) := by
  cases hresolved : (resolveSettings surroundings request).2 with
  | error fault =>
    rw [runCompilation_of_settingsFault hresolved, Outcome.ofFailure, fault.reportedCode_eq_one]
    exact .settings fault _ hresolved
  | ok settings =>
    cases hcode : request.code settings with
    | ok code =>
      rw [runCompilation_of_code hresolved hcode]
      exact .code settings code _ hresolved hcode
    | error fault =>
      rw [runCompilation_of_fault hresolved hcode, Outcome.ofFailure]
      by_cases hunknown : ∀ plugin ∈ Plugin.registry, ¬plugin.IsNamed request.plugin
      · obtain rfl : fault = .unknownPlugin request.plugin :=
          Except.error.inj (hcode.symm.trans (Request.code_of_unknown settings hunknown))
        rw [report_unknownPlugin]
        exact .unknown settings _ hresolved hunknown
      · rw [Request.reportedCode_of_known hunknown hcode]
        exact .refused settings fault _ hresolved hunknown hcode

namespace Ends

variable {outcome : Outcome}

theorem withTrace (hends : Ends surroundings request outcome) (trace : Trace) :
    Ends surroundings request { outcome with trace } := by
  cases hends with
  | code settings code _ hresolved hcode => exact .code settings code trace hresolved hcode
  | unknown settings _ hresolved hunknown => exact .unknown settings trace hresolved hunknown
  | refused settings fault _ hresolved hknown hfault =>
    exact .refused settings fault trace hresolved hknown hfault
  | settings fault _ hresolved => exact .settings fault trace hresolved

/-- The exit code is zero exactly if there are settings and code. -/
theorem exitCode_eq_zero_iff (hends : Ends surroundings request outcome) :
    outcome.exitCode = 0 ↔ ∃ settings code,
      (resolveSettings surroundings request).2 = .ok settings ∧
        request.code settings = .ok code := by
  cases hends with
  | code settings code _ hresolved hcode =>
    exact iff_of_true rfl ⟨settings, code, hresolved, hcode⟩
  | unknown settings _ hresolved hunknown =>
    refine iff_of_false (show (2 : Int) ≠ 0 by decide) ?_
    rintro ⟨other, code, _, hcode⟩
    exact nomatch hcode.symm.trans (Request.code_of_unknown other hunknown)
  | refused settings fault _ hresolved hknown hfault =>
    refine iff_of_false (show (1 : Int) ≠ 0 by decide) ?_
    rintro ⟨other, code, hother, hcode⟩
    obtain rfl : settings = other := Except.ok.inj (hresolved.symm.trans hother)
    exact nomatch hcode.symm.trans hfault
  | settings fault _ hresolved =>
    refine iff_of_false (show (1 : Int) ≠ 0 by decide) ?_
    rintro ⟨other, code, hother, _⟩
    exact nomatch hother.symm.trans hresolved

/-- An unknown plugin is reported unless there are no settings, whatever the arguments are. -/
theorem exitCode_eq_two_iff (hends : Ends surroundings request outcome) :
    outcome.exitCode = 2 ↔
      (∃ settings, (resolveSettings surroundings request).2 = .ok settings) ∧
        ∀ plugin ∈ Plugin.registry, ¬plugin.IsNamed request.plugin := by
  cases hends with
  | code settings code _ hresolved hcode =>
    refine iff_of_false (show (0 : Int) ≠ 2 by decide) fun ⟨_, hunknown⟩ ↦ ?_
    exact nomatch hcode.symm.trans (Request.code_of_unknown settings hunknown)
  | unknown settings _ hresolved hunknown =>
    exact iff_of_true rfl ⟨⟨settings, hresolved⟩, hunknown⟩
  | refused settings fault _ hresolved hknown hfault =>
    exact iff_of_false (show (1 : Int) ≠ 2 by decide) fun ⟨_, hunknown⟩ ↦ hknown hunknown
  | settings fault _ hresolved =>
    refine iff_of_false (show (1 : Int) ≠ 2 by decide) ?_
    rintro ⟨⟨other, hother⟩, _⟩
    exact nomatch hother.symm.trans hresolved

theorem of_settingsFault (hends : Ends surroundings request outcome) {fault : SettingsFault}
    (hfault : (resolveSettings surroundings request).2 = .error fault) :
    outcome.exitCode = 1 ∧ outcome.errors = fault.toFailure.report := by
  cases hends with
  | code _ _ _ hresolved | unknown _ _ hresolved | refused _ _ _ hresolved =>
    exact nomatch hfault.symm.trans hresolved
  | settings other _ hresolved =>
    obtain rfl : fault = other := Except.error.inj (hfault.symm.trans hresolved)
    exact ⟨rfl, rfl⟩

theorem of_fault (hends : Ends surroundings request outcome) {fault : Fault}
    (hsettings : (resolveSettings surroundings request).2 = .ok settings)
    (hfault : request.code settings = .error fault) :
    outcome.exitCode = fault.toFailure.reportedCode ∧ outcome.errors = fault.toFailure.report := by
  cases hends with
  | code other code _ hresolved hcode =>
    obtain rfl : settings = other := Except.ok.inj (hsettings.symm.trans hresolved)
    exact nomatch hfault.symm.trans hcode
  | unknown other _ hresolved hunknown =>
    obtain rfl : fault = .unknownPlugin request.plugin :=
      Except.error.inj (hfault.symm.trans (Request.code_of_unknown settings hunknown))
    exact ⟨rfl, (report_unknownPlugin _).symm⟩
  | refused other cause _ hresolved hknown hcause =>
    obtain rfl : settings = other := Except.ok.inj (hsettings.symm.trans hresolved)
    obtain rfl : fault = cause := Except.error.inj (hfault.symm.trans hcause)
    exact ⟨(Request.reportedCode_of_known hknown hfault).symm, rfl⟩
  | settings cause _ hresolved => exact nomatch hsettings.symm.trans hresolved

/-- Each of the three ends is all or nothing. -/
theorem allOrNothing (hends : Ends surroundings request outcome) :
    AllOrNothing surroundings request outcome := by
  cases hends with
  | code settings code _ hresolved hcode =>
    exact .inl ⟨rfl, rfl, settings, code, hresolved, hcode, rfl, outputLine_eq_iff⟩
  | unknown =>
    have hescape : '\x1B' ∉ "Error: Unknown plugin: ".toList := by decide
    refine .inr (.inl ⟨rfl, rfl, rfl, ?_⟩)
    rw [outputLine_eq_iff, String.toList_append, hasStyle_append_iff hescape]
  | refused | settings => exact .inr (.inr ⟨rfl, rfl, isReport_report _⟩)

end Ends

/-- There is one record of success where there is code, and none otherwise. -/
theorem count_trace_runCompilation (surroundings : Surroundings) (request : Request) :
    (runCompilation surroundings request).trace.count (successRecord request) =
      if (runCompilation surroundings request).exitCode = 0 then 1 else 0 := by
  have hresolve := successRecord_not_mem_resolveSettings surroundings request
  by_cases hzero : (runCompilation surroundings request).exitCode = 0
  · obtain ⟨settings, code, hresolved, hcode⟩ :=
      (ends_runCompilation surroundings request).exitCode_eq_zero_iff.mp hzero
    have hcompile := successRecord_not_mem_compileRequest settings request
    rw [if_pos hzero, runCompilation_of_code hresolved hcode, List.count_append, List.count_append,
      List.count_eq_zero.mpr hresolve, List.count_eq_zero.mpr hcompile, List.count_singleton_self]
  · rw [if_neg hzero, List.count_eq_zero]
    cases hresolved : (resolveSettings surroundings request).2 with
    | error fault =>
      rw [runCompilation_of_settingsFault hresolved]
      exact hresolve
    | ok settings =>
      cases hcode : request.code settings with
      | ok code =>
        have hrun := runCompilation_of_code hresolved hcode
        exact absurd (congrArg Outcome.exitCode hrun) hzero
      | error fault =>
        rw [runCompilation_of_fault hresolved hcode]
        exact List.not_mem_append hresolve (successRecord_not_mem_compileRequest settings request)

/-- A compilation is all or nothing: it ends with the code as its whole output, or without output
and with one report. An unknown plugin is reported, with exit code 2, in preference to any fault of
the arguments, and a fault of the settings in preference to it. The record of success is shown, if
records of its level are, exactly where there is code. The code stands in the output as it is
exactly if no control sequence occurs in it. -/
theorem run_compile_all_or_nothing (surroundings : Surroundings) {arguments : List String}
    {request : Request} {verbose : Bool}
    (hread : Invocation.read arguments = .ok ⟨.compile request, verbose⟩) :
    ∃ outcome, run surroundings arguments = .ok outcome ∧
      AllOrNothing surroundings request outcome ∧
      (outcome.exitCode = 0 ↔ ∃ settings code,
        (resolveSettings surroundings request).2 = .ok settings ∧
          request.code settings = .ok code) ∧
      (outcome.exitCode = 2 ↔
        (∃ settings, (resolveSettings surroundings request).2 = .ok settings) ∧
          ∀ plugin ∈ Plugin.registry, ¬plugin.IsNamed request.plugin) ∧
      (∀ fault, (resolveSettings surroundings request).2 = .error fault →
        outcome.exitCode = 1 ∧ outcome.errors = fault.toFailure.report) ∧
      (∀ settings fault, (resolveSettings surroundings request).2 = .ok settings →
        request.code settings = .error fault → outcome.exitCode = fault.toFailure.reportedCode ∧
          outcome.errors = fault.toFailure.report) ∧
      outcome.trace.count (successRecord request) =
        if (leastLevel surroundings verbose).rank ≤ Log.Level.info.rank ∧ outcome.exitCode = 0
          then 1 else 0 := by
  let compiled := runCompilation surroundings request
  let shown := compiled.trace.shown (leastLevel surroundings verbose)
  have hrun : run surroundings arguments = .ok { compiled with trace := shown } := by
    rw [run, hread, ok_bind]
    rfl
  have hends := (ends_runCompilation surroundings request).withTrace shown
  have hcount : shown.count (successRecord request) =
      if (leastLevel surroundings verbose).rank ≤ Log.Level.info.rank ∧ compiled.exitCode = 0
        then 1 else 0 := by
    rw [count_shown, count_trace_runCompilation, ← ite_and]
    rfl
  exact ⟨_, hrun, hends.allOrNothing, hends.exitCode_eq_zero_iff, hends.exitCode_eq_two_iff,
    fun _ ↦ hends.of_settingsFault, fun _ _ ↦ hends.of_fault, hcount⟩

/-- A control sequence in an argument is in the code, but not in the output. -/
theorem run_compile_all_or_nothing_styled :
    let surroundings : Surroundings :=
      { directory := Files.Path.ofString "/", find := fun _ ↦ .nothing }
    let arguments := ["compile", "array", "'\x1B[1m'"]
    let request : Request := { plugin := "array", arguments := ["'\x1B[1m'"] }
    Invocation.read arguments = .ok ⟨.compile request, false⟩ ∧
    request.code {} = .ok "['\x1B[1m']" ∧
    ∃ outcome, run surroundings arguments = .ok outcome ∧ outcome.exitCode = 0 ∧
      outcome.output ≠ "['\x1B[1m']" ++ "\n" := by
  intro surroundings arguments request
  have hread : Invocation.read arguments = .ok ⟨.compile request, false⟩ := rfl
  have hcode : request.code {} = .ok "['\x1B[1m']" := by
    rw [← toOption_eq_some_iff]
    decide +kernel
  have hresolved : (resolveSettings surroundings request).2 = .ok {} := by
    rw [← toOption_eq_some_iff]
    decide +kernel
  have hstyle : HasStyle "['\x1B[1m']".toList :=
    ⟨['\x1B', '[', '1', 'm'], ⟨['1'], 'm', rfl, List.forall_mem_singleton.mpr rfl, rfl⟩,
      ['[', '\''], ['\'', ']'], rfl⟩
  obtain ⟨outcome, hrun, hcases, hzero, _⟩ := run_compile_all_or_nothing surroundings hread
  have hexit : outcome.exitCode = 0 := hzero.mpr ⟨{}, _, hresolved, hcode⟩
  refine ⟨hread, hcode, outcome, hrun, hexit, ?_⟩
  rcases hcases with ⟨_, _, settings, code, hsettings, hother, _, hiff⟩ | ⟨htwo, _⟩ | ⟨hone, _⟩
  · obtain rfl : settings = {} := Except.ok.inj (hsettings.symm.trans hresolved)
    obtain rfl : code = "['\x1B[1m']" := Except.ok.inj (hother.symm.trans hcode)
    exact fun hplain ↦ hiff.mp hplain hstyle
  · exact absurd (hexit.symm.trans htwo) (by decide)
  · exact absurd (hexit.symm.trans hone) (by decide)

end TemplateCalls.CommandLine
