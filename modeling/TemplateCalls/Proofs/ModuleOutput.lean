import TemplateCalls.Proofs.CompilationOutcome
import TemplateCalls.Proofs.DecodableRuns
import TemplateCalls.Proofs.RunAccount
import TemplateCalls.Proofs.SettingsPrecedence

/-!
# Expressions and whole modules

A call may be compiled by itself or into a module of its own. Both ways resolve the same settings
and the same plugin, so they are refused together and with the same report. If they are not, the
module is built around the expression: it has the imports of the plugin, the function name of the
settings and the expression as its only piece. This also holds of what is written, from which
control sequences are left out: the lines around the expression have none and add to none.
-/

namespace TemplateCalls

open TemplateCalls.Outcome

/-! ## A module with one piece -/

namespace RenderModule

variable {character : Char} {lines : List String}

theorem not_mem_ended (hfeed : character ≠ '\n')
    (hlines : ∀ line ∈ lines, character ∉ line.toList) : character ∉ (ended lines).toList := by
  induction lines with
  | nil => exact List.not_mem_nil
  | cons line lines ih =>
    obtain ⟨hline, hlines⟩ := List.forall_mem_cons.mp hlines
    rw [ended_cons, String.toList_append, String.toList_append]
    exact List.not_mem_append (List.not_mem_append hline (by simpa using hfeed)) (ih hlines)

/-- No control sequence stands in front of the piece. -/
theorem escape_not_mem_of_mem_openingLines {functionName : String} {imports : List String}
    (hname : '\x1B' ∉ functionName.toList) (himports : ∀ name ∈ imports, '\x1B' ∉ name.toList) :
    ∀ line ∈ openingLines functionName imports, '\x1B' ∉ line.toList := by
  have himport : ∀ line ∈ imports.map ("import " ++ ·), '\x1B' ∉ line.toList := by
    intro line hline
    obtain ⟨name, hmem, rfl⟩ := List.mem_map.mp hline
    rw [String.toList_append]
    exact List.not_mem_append (by decide) (himports name hmem)
  have hopening : '\x1B' ∉ ("def " ++ functionName ++ "(self):").toList := by
    rw [String.toList_append, String.toList_append]
    exact List.not_mem_append (List.not_mem_append (by decide) hname) (by decide)
  intro line hline
  rw [openingLines, List.mem_append] at hline
  rcases hline with hline | hline
  · split at hline
    · cases hline
    · rcases List.mem_append.mp hline with hline | hblank
      · exact himport line hline
      · obtain rfl : line = "" := (List.mem_pair.mp hblank).elim id id
        exact List.not_mem_nil
  · rcases List.mem_pair.mp hline with rfl | rfl
    · exact hopening
    · decide

/-- The source of a module with one piece is the piece between two fixed texts. -/
theorem toList_source_of_piece (target : RenderModule) (piece : String) :
    { target with pieces := [piece] }.source.toList =
      (ended (openingLines target.functionName target.imports)).toList ++
        "    _out.append(str(".toList ++ piece.toList ++
          ')' :: ")\n    return ''.join(_out)\n".toList := by
  have hnil : ended [] = "" := rfl
  have hline : appendLine piece = "    _out.append(str(" ++ piece ++ "))" := rfl
  have hbehind : ')' :: ")\n    return ''.join(_out)\n".toList =
      "))".toList ++ ("\n".toList ++ ("    return ''.join(_out)".toList ++ "\n".toList)) := by
    decide
  rw [source_eq, List.map_singleton, ended_cons, ended_cons, hnil, hline, hbehind]
  simp only [String.append_empty, String.toList_append, List.append_assoc]

/-- The lines of a module that are written around a piece have no control sequences in them and do
not go on with one in the piece. -/
theorem outputLine_source_of_piece {target : RenderModule} (piece : String)
    (hname : '\x1B' ∉ target.functionName.toList)
    (himports : ∀ name ∈ target.imports, '\x1B' ∉ name.toList) :
    outputLine { target with pieces := [piece] }.source =
      { target with pieces := [.ofList (plain piece.toList)] }.source ++ "\n" := by
  have hbefore : '\x1B' ∉ (ended (openingLines target.functionName target.imports)).toList ++
      "    _out.append(str(".toList :=
    List.not_mem_append
      (not_mem_ended (by decide) (escape_not_mem_of_mem_openingLines hname himports)) (by decide)
  have hclosing : BreaksStyle ')' := ⟨by decide, by decide, by decide⟩
  have hpiece : (String.ofList (plain piece.toList)).toList = plain piece.toList :=
    String.toList_ofList
  have hsource : plain { target with pieces := [piece] }.source.toList =
      { target with pieces := [.ofList (plain piece.toList)] }.source.toList := by
    rw [toList_source_of_piece, toList_source_of_piece, hpiece,
      plain_append_right hclosing _ (by decide), plain_append_left hbefore]
  rw [outputLine_eq, hsource, String.ofList_toList]

end RenderModule

namespace CommandLine

open Log (Trace)
open RenderModule (ofSettings)

variable {surroundings : Surroundings} {request : Request} {settings : Settings}

/-! ## The code of both requests -/

def Request.inModule (request : Request) : Request := { request with wholeModule := true }

/-- Both modes are refused for the same faults. -/
theorem Request.code_inModule_eq_error_iff {fault : Fault} :
    request.inModule.code settings = .error fault ↔ request.code settings = .error fault := by
  rw [code_eq_error_iff, code_eq_error_iff]
  rfl

theorem Request.code_eq_ok_iff {expression : String} (hplain : request.wholeModule = false) :
    request.code settings = .ok expression ↔
      ∃ plugin, (ofSettings settings).expressionOf (.named request.plugin) request.entries =
        .ok (plugin, expression) := by
  have hcontext : settings.context = (ofSettings settings).context := rfl
  rw [code, hcontext, RenderModule.compileCall_eq_map_expressionOf, hplain]
  cases (ofSettings settings).expressionOf (.named request.plugin) request.entries with
  | error fault => simp [Except.map]
  | ok result => simp [Except.map, Prod.ext_iff]

/-- The module that is asked for holds one call, with the expression that it has by itself. -/
theorem Request.code_inModule {plugin : Plugin} {expression : String}
    (hexpression : (ofSettings settings).expressionOf (.named request.plugin) request.entries =
      .ok (plugin, expression)) :
    request.inModule.code settings =
      .ok ((ofSettings settings).withCall plugin expression).source := by
  have hcontext : settings.context = (ofSettings settings).context := rfl
  have hentries : request.inModule.entries = request.entries := rfl
  have hplugin : request.inModule.plugin = request.plugin := rfl
  rw [code, hcontext, RenderModule.compileCall_eq_map_expressionOf, RenderModule.step_call,
    hentries, hplugin, hexpression]
  rfl

theorem isValid_of_resolveSettings
    (hsettings : (resolveSettings surroundings request).2 = .ok settings) :
    settings.IsValid := by
  rw [resolveSettings_snd, bind_eq_ok_iff] at hsettings
  obtain ⟨file, _, hsettings⟩ := hsettings
  obtain ⟨loaded, _, hoverride⟩ := bind_eq_ok_iff.mp hsettings
  exact Settings.isValid_of_ofDraft (mapError_eq_ok_iff.mp hoverride)

/-! ## Command lines -/

theorem read_compile (arguments : List String) :
    Invocation.read ("compile" :: arguments) =
      (readCompile arguments >>= fun command ↦ .ok { command }) := rfl

/-- What the options that are given ask for, and the plugin and its arguments among the others. -/
structure Asks (given : List (Given CompileOption)) (others : List String) (request : Request) :
    Prop where
  others_eq : others = request.plugin :: request.arguments
  noHelp : isGiven given .help = false
  charset_eq : request.charset = lastValue? given .charset
  file_eq : request.file = (lastValue? given .config).map Files.Path.ofString
  wholeModule_eq : request.wholeModule = isGiven given .wholeModule

/-- A command is read for a request exactly if options and arguments ask for it. -/
theorem readCompile_eq_ok_iff {arguments : List String} :
    readCompile arguments = .ok (.compile request) ↔
      ∃ given others, OptionSpec.read compileOptions true arguments = .ok (given, others) ∧
        Asks given others request := by
  rw [readCompile, bind_eq_ok_iff, Prod.exists]
  refine exists_congr fun given ↦ exists_congr fun others ↦ and_congr_right fun _ ↦ ?_
  constructor
  · intro hcommand
    dsimp only at hcommand
    split at hcommand
    · cases hcommand
    · next hhelp =>
      cases others with
      | nil => cases hcommand
      | cons plugin rest =>
        cases hcommand
        exact ⟨rfl, Bool.not_eq_true _ ▸ hhelp, rfl, rfl, rfl⟩
  · rintro ⟨rfl, hhelp, hcharset, hfile, hmodule⟩
    dsimp only
    rw [if_neg (by rw [hhelp]; exact Bool.false_ne_true), ← hcharset, ← hfile, ← hmodule]
    rfl

theorem read_compileOptions_module (arguments : List String) :
    OptionSpec.read compileOptions true ("--module" :: arguments) =
      (OptionSpec.read compileOptions true arguments >>= fun (given, others) ↦
        .ok (⟨.wholeModule, none⟩ :: given, others)) := rfl

theorem lastValue?_module_cons {option : CompileOption} (hoption : option ≠ .wholeModule)
    (given : List (Given CompileOption)) :
    lastValue? (⟨.wholeModule, none⟩ :: given) option = lastValue? given option := by
  have hlast : [(⟨.wholeModule, none⟩ : Given CompileOption)].find? (·.key == option) = none := by
    simpa using Ne.symm hoption
  rw [lastValue?, List.reverse_cons, List.find?_append, hlast, Option.or_none, lastValue?]

/-- One option more asks for the same call in a module. -/
theorem Asks.inModule {given : List (Given CompileOption)} {others : List String}
    (hasks : Asks given others request) :
    Asks (⟨.wholeModule, none⟩ :: given) others request.inModule where
  others_eq := hasks.others_eq
  noHelp := hasks.noHelp
  charset_eq := hasks.charset_eq.trans (lastValue?_module_cons (by decide) given).symm
  file_eq := by
    rw [lastValue?_module_cons (by decide)]
    exact hasks.file_eq
  wholeModule_eq := rfl

/-- The option for a whole module may be added right behind the command. -/
theorem read_compile_module {arguments : List String} {verbose : Bool}
    (hread : Invocation.read ("compile" :: arguments) = .ok ⟨.compile request, verbose⟩) :
    Invocation.read ("compile" :: "--module" :: arguments) =
      .ok ⟨.compile request.inModule, verbose⟩ := by
  rw [read_compile] at hread ⊢
  obtain ⟨command, hcommand, hinvocation⟩ := bind_eq_ok_iff.mp hread
  cases hinvocation
  obtain ⟨given, others, hgiven, hasks⟩ := readCompile_eq_ok_iff.mp hcommand
  have hoptions : OptionSpec.read compileOptions true ("--module" :: arguments) =
      .ok (⟨.wholeModule, none⟩ :: given, others) := by
    rw [read_compileOptions_module, hgiven]
    rfl
  rw [readCompile_eq_ok_iff.mpr ⟨_, _, hoptions, hasks.inModule⟩]
  rfl

/-- Every request is made by some command line. -/
theorem exists_read_compile (plugin : String) (arguments : List String)
    (charset config : Option String) (wholeModule : Bool) :
    let file := config.map Files.Path.ofString
    ∃ line, Invocation.read line =
      .ok ⟨.compile { plugin, arguments, charset, file, wholeModule }, false⟩ := by
  let charsetOption := (charset.map (["--charset", ·])).getD []
  let configOption := (config.map (["--config", ·])).getD []
  let moduleOption := if wholeModule then ["--module"] else []
  refine ⟨"compile" :: (charsetOption ++ configOption ++ moduleOption ++
    "--" :: plugin :: arguments), ?_⟩
  cases charset <;> cases config <;> cases wholeModule <;> rfl

/-! ## Agreement -/

/-- What a compilation for an expression and one for a whole module have in common: they fail
together, with the same report; and if the first writes an expression, the other writes the module
with the imports of the plugin in the order of names, the function name of the settings and this
expression as the only piece. -/
structure ModesAgree (surroundings : Surroundings) (request : Request) (plain whole : Outcome) :
    Prop where
  exitCode : whole.exitCode = plain.exitCode
  errors : whole.errors = plain.errors
  failed : plain.exitCode ≠ 0 → plain.output = "" ∧ whole.output = ""
  compiled : plain.exitCode = 0 → ∃ settings plugin imports expression,
    (resolveSettings surroundings request).2 = .ok settings ∧
    (Reference.named request.plugin).resolve = .ok plugin ∧
    imports.Pairwise (· < ·) ∧ (∀ name, name ∈ imports ↔ name ∈ plugin.imports) ∧
    plain.output = expression ++ "\n" ∧
    whole.output = RenderModule.source
      { context := settings.context, functionName := settings.functionName,
        pieces := [expression], imports } ++ "\n"

/-- Two runs that end with one failure agree. -/
theorem modesAgree_ofFailure {failure : Failure} (hcode : failure.reportedCode ≠ 0)
    (trace other : Trace) :
    ModesAgree surroundings request (.ofFailure failure trace) (.ofFailure failure other) where
  exitCode := rfl
  errors := rfl
  failed := fun _ ↦ ⟨rfl, rfl⟩
  compiled := fun hzero ↦ absurd hzero hcode

theorem modesAgree_of_expression {plugin : Plugin} {expression : String}
    (hsettings : (resolveSettings surroundings request).2 = .ok settings)
    (hexpression : (ofSettings settings).expressionOf (.named request.plugin) request.entries =
      .ok (plugin, expression)) (trace other : Trace) :
    ModesAgree surroundings request ⟨0, outputLine expression, "", trace⟩
      ⟨0, outputLine ((ofSettings settings).withCall plugin expression).source, "", other⟩ where
  exitCode := rfl
  errors := rfl
  failed := fun hcode ↦ absurd rfl hcode
  compiled := fun _ ↦ by
    let target : RenderModule :=
      { context := settings.context, functionName := settings.functionName,
        imports := insertNames plugin.imports [] }
    have hresolve := RenderModule.resolve_of_expressionOf hexpression
    have hbuiltIn : (Reference.named request.plugin).IsBuiltIn := True.intro
    have hplugin := Reference.mem_registry_of_resolve hbuiltIn hresolve
    have hmem (name : String) : name ∈ target.imports ↔ name ∈ plugin.imports :=
      mem_insertNames_iff.trans (or_iff_left List.not_mem_nil)
    have hname : '\x1B' ∉ target.functionName.toList :=
      Text.escape_not_mem_of_isIdentifier (isValid_of_resolveSettings hsettings).identifier
    have himports : ∀ name ∈ target.imports, '\x1B' ∉ name.toList := fun name hadded ↦
      Text.escape_not_mem_of_isIdentifier
        (Plugin.isIdentifier_of_mem_imports hplugin ((hmem name).mp hadded))
    have hmodule := RenderModule.outputLine_source_of_piece expression hname himports
    exact ⟨settings, plugin, target.imports, .ofList (plain expression.toList), hsettings,
      hresolve, pairwise_insertNames .nil, hmem, outputLine_eq expression, hmodule⟩

/-- The two requests find the same settings, and the code of one is refused with the code of the
other. -/
theorem modesAgree_runCompilation (surroundings : Surroundings)
    (hplain : request.wholeModule = false) :
    ModesAgree surroundings request (runCompilation surroundings request)
      (runCompilation surroundings request.inModule) := by
  have hresolved : resolveSettings surroundings request.inModule =
      resolveSettings surroundings request := rfl
  cases hsettings : (resolveSettings surroundings request).2 with
  | error fault =>
    rw [runCompilation_of_settingsFault hsettings,
      runCompilation_of_settingsFault (hresolved ▸ hsettings)]
    have hexit : fault.toFailure.reportedCode ≠ 0 := by rw [fault.reportedCode_eq_one]; decide
    exact modesAgree_ofFailure hexit _ _
  | ok settings =>
    cases hcode : request.code settings with
    | error fault =>
      have hmodule := Request.code_inModule_eq_error_iff.mpr hcode
      rw [runCompilation_of_fault hsettings hcode,
        runCompilation_of_fault (hresolved ▸ hsettings) hmodule]
      exact modesAgree_ofFailure fault.reportedCode_ne_zero _ _
    | ok expression =>
      obtain ⟨plugin, hexpression⟩ := (Request.code_eq_ok_iff hplain).mp hcode
      have hmodule := Request.code_inModule hexpression
      rw [runCompilation_of_code hsettings hcode,
        runCompilation_of_code (hresolved ▸ hsettings) hmodule]
      exact modesAgree_of_expression hsettings hexpression _ _

/-- With the same arguments and in the same surroundings, a compilation for an expression and one
for a whole module agree, however much of their traces is shown. -/
theorem run_compile_modes_agree (surroundings : Surroundings)
    {arguments moduleArguments : List String} {request : Request} {verbose moduleVerbose : Bool}
    (hplain : request.wholeModule = false)
    (hread : Invocation.read arguments = .ok ⟨.compile request, verbose⟩)
    (hmodule : Invocation.read moduleArguments = .ok ⟨.compile request.inModule, moduleVerbose⟩) :
    ∃ plain whole, run surroundings arguments = .ok plain ∧
      run surroundings moduleArguments = .ok whole ∧
      ModesAgree surroundings request plain whole := by
  have hagree := modesAgree_runCompilation surroundings hplain
  exact ⟨_, _, run_of_read hread, run_of_read hmodule,
    ⟨hagree.exitCode, hagree.errors, hagree.failed, hagree.compiled⟩⟩

/-- The option stands among the arguments of the call, and the expression has control sequences in
it. -/
theorem run_compile_modes_agree_styled :
    let surroundings : Surroundings :=
      { directory := Files.Path.ofString "/", find := fun _ ↦ .nothing }
    let arguments := ["compile", "whitespace", "'\x1B[1m'", "with='\x1B['"]
    let moduleArguments :=
      ["-v", "compile", "whitespace", "'\x1B[1m'", "--module", "with='\x1B['"]
    let request : Request :=
      { plugin := "whitespace", arguments := ["'\x1B[1m'", "with='\x1B['"] }
    request.wholeModule = false ∧
    Invocation.read arguments = .ok ⟨.compile request, false⟩ ∧
    Invocation.read moduleArguments = .ok ⟨.compile request.inModule, true⟩ ∧
    ∃ plain whole, run surroundings arguments = .ok plain ∧
      run surroundings moduleArguments = .ok whole ∧
      ModesAgree surroundings request plain whole ∧ plain.exitCode = 0 := by
  intro surroundings arguments moduleArguments request
  have hread : Invocation.read arguments = .ok ⟨.compile request, false⟩ := rfl
  have hmodule : Invocation.read moduleArguments = .ok ⟨.compile request.inModule, true⟩ := rfl
  obtain ⟨plain, whole, hplain, hwhole, hagree⟩ :=
    run_compile_modes_agree surroundings rfl hread hmodule
  have hexit : (run surroundings arguments).toOption.map Outcome.exitCode = some 0 := by
    decide +kernel
  rw [hplain] at hexit
  exact ⟨rfl, hread, hmodule, plain, whole, hplain, hwhole, hagree, Option.some.inj hexit⟩

end CommandLine

end TemplateCalls
