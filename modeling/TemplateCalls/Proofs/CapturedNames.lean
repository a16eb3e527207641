import TemplateCalls.Proofs.FunctionHeader
import TemplateCalls.Proofs.HollowCalls
import TemplateCalls.Proofs.NameUses

/-!
# Names that the function captures

The statements of a function look up the names that they load and never bind. The line that opens
the function binds its own name beside the imports of the module, and so takes the place of
whatever was to be looked up under that name. What the statements look up of themselves shows in the
hollow run, whose calls carry no code of their own: `str` with every piece, and the imported module,
`isinstance` and `bytes` with every call that collapses white space. Each of these names is taken
for a function name, and captured then; and no other name is.

A name is bound and looked up in its normal form, which for ASCII is the name itself.
-/

namespace TemplateCalls

open Outcome
open Text (isIdentifier)

/-! ## Hollow operands -/

theorem isNameless_emptyText : IsNameless Expression.emptyText := by decide +kernel

theorem Argument.isNameless_hollow (argument : Argument) : argument.hollow.IsNameless where
  value := isNameless_emptyText
  key hkind key hkey := by
    have hcomputed : argument.kind = .computed := hkind
    have hhollow : argument.hollow.key = _ := if_pos hcomputed
    rw [hhollow] at hkey
    obtain ⟨written, _, rfl⟩ := Option.map_eq_some_iff.mp hkey
    cases hempty : written.isEmpty with
    | true =>
      rw [if_pos rfl, String.isEmpty_iff.mp hempty]
      decide
    | false => exact isNameless_emptyText

theorem Entry.isNameless_of_toArguments_hollow {entries : List Entry} {arguments : List Argument}
    (harguments : toArguments (entries.map hollow) = .ok arguments) :
    ∀ argument ∈ arguments, argument.IsNameless := by
  rw [toArguments_hollow] at harguments
  cases hentries : toArguments entries with
  | error fault =>
    rw [hentries] at harguments
    cases harguments
  | ok others =>
    rw [hentries] at harguments
    cases harguments
    intro argument hargument
    obtain ⟨other, _, rfl⟩ := List.mem_map.mp hargument
    exact other.isNameless_hollow

namespace Plugin

variable {plugin : Plugin} {arguments : List Argument} {context : Context} {entries : List Entry}
  {code : String}

/-- A hollow call of a plugin with an expression of two operands has one of two without names. -/
theorem exists_nameless_operands (hplugin : plugin.IsWellFormed)
    (hdefaults : ∀ parameter ∈ plugin.parameters, ∀ source ∈ parameter.default, IsNameless source)
    {second stand : String} {expression : Context → String → String → String}
    (hmakes : plugin.MakesExpression second stand expression) {reference : Reference}
    (hresolve : reference.resolve = .ok plugin)
    (hcode : compileCall context reference (entries.map Entry.hollow) = .ok code) :
    ∃ value operand, IsNameless value ∧ IsNameless operand ∧
      code = expression context value operand := by
  have hcompile := hcode
  rw [compileCall_of_resolve hresolve] at hcompile
  obtain ⟨bindings, hbind, _⟩ := bind_eq_ok_iff.mp hcompile
  obtain ⟨_, value, operand, _, hvalue, hoperand, _, hexpression⟩ :=
    hmakes context reference _ bindings hresolve hbind
  obtain ⟨arguments, harguments, hbound⟩ := bind_eq_ok_iff.mp hbind
  obtain ⟨_, rfl⟩ := (bindArguments_eq_ok_iff hplugin).mp hbound
  have hvalues : ∀ argument ∈ arguments, IsNameless argument.value := fun argument hargument ↦
    (Entry.isNameless_of_toArguments_hollow harguments argument hargument).value
  refine ⟨value, operand, holds_of_get? hvalues hdefaults hvalue,
    holds_of_get? hvalues hdefaults hoperand, ?_⟩
  rw [hcode] at hexpression
  exact Except.ok.inj hexpression

/-- The names that a hollow call of a built-in plugin uses. -/
theorem uses_of_compileCall (hplugin : plugin ∈ registry) {reference : Reference}
    (hresolve : reference.resolve = .ok plugin)
    (hcode : compileCall context reference (entries.map Entry.hollow) = .ok code) :
    plugin.name = fallback.name ∧ Use.inExpression code = Expression.fallbackUses ∨
      plugin = whitespace ∧ Use.inExpression code = Expression.collapseUses ∨
      plugin.name = array.name ∧ Use.inExpression code = [] := by
  have hwellFormed := isWellFormed_of_mem_registry hplugin
  simp only [registry, List.mem_cons, List.not_mem_nil, or_false] at hplugin
  rcases hplugin with rfl | rfl | rfl
  · obtain ⟨value, operand, hvalue, hoperand, rfl⟩ :=
      exists_nameless_operands hwellFormed (by decide +kernel) makesExpression_fallback hresolve
        hcode
    exact .inl ⟨rfl, Expression.inExpression_fallback hvalue hoperand⟩
  · obtain ⟨value, operand, hvalue, hoperand, rfl⟩ :=
      exists_nameless_operands hwellFormed (by decide +kernel) makesExpression_whitespace hresolve
        hcode
    exact .inr (.inl ⟨rfl, Expression.inExpression_collapseWhitespace context hvalue hoperand⟩)
  · rw [compileCall_of_array hresolve] at hcode
    obtain ⟨arguments, harguments, _⟩ := bind_eq_ok_iff.mp hcode
    exact .inr (.inr ⟨rfl, (Expression.isNameless_of_collection harguments
      (Entry.isNameless_of_toArguments_hollow harguments) hcode).inExpression_eq_nil⟩)

end Plugin

namespace RenderModule

/-! ## Pieces of a hollow run -/

def Step.Calls (plugin : Plugin) : Step → Prop
  | .call reference _ => reference.resolve = .ok plugin
  | _ => False

/-- What a step with emptied operands reads and binds depends on the plugin alone. -/
theorem Step.uses_hollow {context : Context} {step : Step} {piece : String}
    (hbuiltIn : step.IsBuiltIn) (hpiece : step.hollow.piece? context = some piece) :
    step.Calls Plugin.whitespace ∧ Use.inExpression piece = Expression.collapseUses ∨
      ¬step.Calls Plugin.whitespace ∧
        (Use.inExpression piece = Expression.fallbackUses ∨ Use.inExpression piece = []) := by
  cases step with
  | compile => cases hpiece
  | text output =>
    have hquote : (if output.isEmpty then none else some (Text.quote output)) = some piece := hpiece
    split at hquote
    · cases hquote
    · cases hquote
      exact .inr ⟨id, .inr (isNameless_text_quote output).inExpression_eq_nil⟩
  | call reference entries =>
    have hcode := toOption_eq_some_iff.mp hpiece
    obtain ⟨plugin, hresolve, _⟩ := bind_eq_ok_iff.mp hcode
    have hplugin := Reference.mem_registry_of_resolve hbuiltIn hresolve
    have hother : plugin.name ≠ Plugin.whitespace.name →
        ¬(Step.call reference entries).Calls Plugin.whitespace := by
      intro hname hcalls
      exact hname (congrArg Plugin.name (Except.ok.inj (hresolve.symm.trans hcalls)))
    rcases Plugin.uses_of_compileCall hplugin hresolve hcode with
      ⟨hname, huses⟩ | ⟨rfl, huses⟩ | ⟨hname, huses⟩
    · exact .inr ⟨hother (by rw [hname]; decide), .inl huses⟩
    · exact .inl ⟨hresolve, huses⟩
    · exact .inr ⟨hother (by rw [hname]; decide), .inr huses⟩

/-- The names that are loaded where white space is collapsed, beside `str`. -/
def collapseNames : List String := ["re", "isinstance", "bytes"]

/-- Some call collapses white space and is not refused. -/
def Collapses (context : Context) (steps : List Step) : Prop :=
  ∃ step ∈ steps, step.Calls Plugin.whitespace ∧ (step.piece? context).isSome = true

/-- The names that the code around the operands of a run needs. -/
def Needs (context : Context) (steps : List Step) (name : String) : Prop :=
  name = "str" ∨ name ∈ collapseNames ∧ Collapses context steps

/-- A name that a piece loads is bound there, is `str`, or is one of those that are loaded where
white space is collapsed. -/
theorem Step.loads_hollow {context : Context} {step : Step} {piece : String}
    (hbuiltIn : step.IsBuiltIn) (hpiece : step.hollow.piece? context = some piece) (name : String) :
    (.bind name ∈ Use.inExpression piece → name = "_tmp") ∧
      (.load name ∈ Use.inExpression piece → .bind name ∈ Use.inExpression piece ∨ name = "str" ∨
        name ∈ collapseNames ∧ step.Calls Plugin.whitespace) ∧
      (name ∈ collapseNames → step.Calls Plugin.whitespace →
        .load name ∈ Use.inExpression piece) := by
  rcases step.uses_hollow hbuiltIn hpiece with ⟨hcalls, huses⟩ | ⟨hcalls, huses | huses⟩
  · simp only [huses, Expression.collapseUses, collapseNames, hcalls, and_true, List.mem_cons,
      List.not_mem_nil, or_false, Use.load.injEq, Use.bind.injEq, reduceCtorEq, false_or,
      forall_const]
    tauto
  · simp only [huses, Expression.fallbackUses, hcalls, and_false, or_false, List.mem_cons,
      List.not_mem_nil, Use.load.injEq, Use.bind.injEq, reduceCtorEq, false_or, false_implies,
      implies_true, and_true]
    tauto
  · simp [huses, hcalls]

theorem Step.isSelfContained_hollow {step : Step} (hbuiltIn : step.IsBuiltIn) :
    step.hollow.IsSelfContained := by
  cases step with
  | text output | compile => trivial
  | call reference entries =>
    refine ⟨hbuiltIn, fun argument hargument ↦ ?_⟩
    rw [Entry.filterMap_argument?_hollow] at hargument
    obtain ⟨other, _, rfl⟩ := List.mem_map.mp hargument
    exact other.isNameless_hollow.isSelfContained

/-! ## Statements -/

/-- The line of a piece looks up the output and the conversion to text, and then what the piece
does. -/
theorem inStatement_appendLine {piece : String} (hpiece : isSelfContained piece = true) :
    Use.inStatement (appendLine piece) =
      [.load "_out", .load "str"] ++ Use.inExpression piece := by
  have hopening : Leads [] "    _out.append(str(" [.round, .round] := by decide +kernel
  unfold appendLine Use.inStatement
  rw [String.toList_append, String.toList_append, List.append_assoc,
    Use.inCode_append .first hopening (by decide +kernel),
    Use.inCode_operand_append _ hpiece (by decide +kernel)]
  have hbefore : Use.inCode .first [] "    _out.append(str(".toList =
      [.load "_out", .load "str"] := by decide +kernel
  have hbehind : Use.inCode .inside [.round, .round] "))".toList = [] := by decide +kernel
  rw [hbefore, hbehind, List.append_nil]

def uses (target : RenderModule) : List Use := target.statements.flatMap Use.inStatement

theorem mem_uses_iff {target : RenderModule}
    (htarget : ∀ piece ∈ target.pieces, isSelfContained piece = true) (use : Use) :
    use ∈ target.uses ↔
      use = .bind "_out" ∨ use = .load "_out" ∨
        ∃ piece ∈ target.pieces, use = .load "str" ∨ use ∈ Use.inExpression piece := by
  have hfirst : Use.inStatement "    _out = []" = [.bind "_out"] := by decide +kernel
  have hlast : Use.inStatement "    return ''.join(_out)" = [.load "_out"] := by decide +kernel
  have hpieces : use ∈ (target.pieces.map appendLine).flatMap Use.inStatement ↔
      ∃ piece ∈ target.pieces,
        use = .load "_out" ∨ use = .load "str" ∨ use ∈ Use.inExpression piece := by
    rw [List.mem_flatMap]
    constructor
    · rintro ⟨_, hline, huse⟩
      obtain ⟨piece, hpiece, rfl⟩ := List.mem_map.mp hline
      rw [inStatement_appendLine (htarget piece hpiece)] at huse
      exact ⟨piece, hpiece, by simpa using huse⟩
    · rintro ⟨piece, hpiece, huse⟩
      refine ⟨_, List.mem_map_of_mem hpiece, ?_⟩
      rw [inStatement_appendLine (htarget piece hpiece)]
      simpa using huse
  rw [uses, statements, List.flatMap_append, List.flatMap_cons, hfirst, List.flatMap_singleton,
    hlast, List.mem_append, List.mem_append, hpieces, List.mem_singleton, List.mem_singleton]
  constructor
  · rintro ((hbind | ⟨piece, hpiece, hload | huse⟩) | hload)
    · exact .inl hbind
    · exact .inr (.inl hload)
    · exact .inr (.inr ⟨piece, hpiece, huse⟩)
    · exact .inr (.inl hload)
  · rintro (hbind | hload | ⟨piece, hpiece, huse⟩)
    · exact .inl (.inl hbind)
    · exact .inr hload
    · exact .inl (.inr ⟨piece, hpiece, .inr huse⟩)

/-- A name is looked up beyond the function if its statements load it, and neither they nor the
parameter bind it. -/
def LooksUp (target : RenderModule) (name : String) : Prop :=
  .load name ∈ target.uses ∧ .bind name ∉ target.uses ∧ name ≠ "self"

/-- The function takes the place of a name that it looks up. -/
def CapturesName (normalForm : String → String) (target : RenderModule) : Prop :=
  target.LooksUp (normalForm target.functionName)

/-! ## Hollow runs -/

/-- The module after a run in which no call carries code of its own. -/
def hollowRun (settings : Settings) (steps : List Step) : RenderModule :=
  ((ofSettings settings).run (steps.map Step.hollow)).2

section hollowRun

variable {settings : Settings} {steps : List Step} (hsteps : ∀ step ∈ steps, step.IsBuiltIn)
  {name : String}

include hsteps

theorem isSelfContained_hollowRun : (hollowRun settings steps).IsSelfContained := by
  refine IsSelfContained.run ⟨by simp [ofSettings], by simp [ofSettings]⟩ fun step hstep ↦ ?_
  obtain ⟨other, hother, rfl⟩ := List.mem_map.mp hstep
  exact Step.isSelfContained_hollow (hsteps other hother)

/-- The names in a module of emptied steps, step by step. -/
theorem mem_uses_hollowRun_iff (use : Use) :
    use ∈ (hollowRun settings steps).uses ↔
      use = .bind "_out" ∨ use = .load "_out" ∨
        ∃ step ∈ steps, ∃ piece, step.hollow.piece? settings.context = some piece ∧
          (use = .load "str" ∨ use ∈ Use.inExpression piece) := by
  have hmem : ∀ piece, piece ∈ (hollowRun settings steps).pieces ↔
      ∃ step ∈ steps, step.hollow.piece? settings.context = some piece := by
    intro piece
    simp only [hollowRun, run_snd, List.filterMap_map, List.mem_append, List.mem_filterMap,
      Function.comp_apply]
    exact or_iff_right List.not_mem_nil
  rw [mem_uses_iff (isSelfContained_hollowRun hsteps).pieces]
  simp only [hmem]
  refine or_congr_right (or_congr_right ⟨?_, ?_⟩)
  · rintro ⟨piece, ⟨step, hstep, hpiece⟩, huse⟩
    exact ⟨step, hstep, piece, hpiece, huse⟩
  · rintro ⟨step, hstep, piece, hpiece, huse⟩
    exact ⟨piece, ⟨step, hstep, hpiece⟩, huse⟩

/-- Only the output and the temporary are bound. -/
theorem eq_of_bind_mem_uses (hbind : .bind name ∈ (hollowRun settings steps).uses) :
    name = "_out" ∨ name = "_tmp" := by
  rcases (mem_uses_hollowRun_iff hsteps _).mp hbind with
    heq | heq | ⟨step, hstep, piece, hpiece, heq | huse⟩
  · cases heq
    exact .inl rfl
  · cases heq
  · cases heq
  · exact .inr ((Step.loads_hollow (hsteps step hstep) hpiece name).1 huse)

theorem looksUp_of_load_mem_uses (hname : name = "str" ∨ name ∈ collapseNames)
    (hload : .load name ∈ (hollowRun settings steps).uses) :
    (hollowRun settings steps).LooksUp name := by
  have hne : name ≠ "_out" ∧ name ≠ "_tmp" ∧ name ≠ "self" := by
    simp only [collapseNames, List.mem_cons, List.not_mem_nil, or_false] at hname
    rcases hname with rfl | rfl | rfl | rfl <;> decide
  refine ⟨hload, fun hbind ↦ ?_, hne.2.2⟩
  exact (eq_of_bind_mem_uses hsteps hbind).elim hne.1 hne.2.1

/-- A name that a module looks up is needed by one of its steps. -/
theorem needs_of_looksUp (hname : (hollowRun settings steps).LooksUp name) :
    Needs settings.context steps name := by
  have huses : ∀ use, use ∈ (hollowRun settings steps).uses ↔ _ := mem_uses_hollowRun_iff hsteps
  obtain ⟨hload, hunbound, _⟩ := hname
  rcases (huses _).mp hload with heq | heq | ⟨step, hstep, piece, hpiece, heq | huse⟩
  · cases heq
  · cases heq
    exact absurd ((huses _).mpr (.inl rfl)) hunbound
  · cases heq
    exact .inl rfl
  · rcases (Step.loads_hollow (hsteps step hstep) hpiece name).2.1 huse with
      hbind | hstr | ⟨hcollapse, hcalls⟩
    · exact absurd ((huses _).mpr (.inr (.inr ⟨step, hstep, piece, hpiece, .inr hbind⟩))) hunbound
    · exact .inl hstr
    · refine .inr ⟨hcollapse, step, hstep, hcalls, ?_⟩
      rw [← (Step.hollow_spec settings.context (hsteps step hstep)).1, hpiece, Option.isSome_some]

/-- A name that is needed by a step is looked up in the module. -/
theorem looksUp_of_needs (hpieces : ((ofSettings settings).run steps).2.pieces ≠ [])
    (hneeded : Needs settings.context steps name) : (hollowRun settings steps).LooksUp name := by
  have huses : ∀ use, use ∈ (hollowRun settings steps).uses ↔ _ := mem_uses_hollowRun_iff hsteps
  have hpiece? : ∀ step ∈ steps, (step.piece? settings.context).isSome = true →
      ∃ piece, step.hollow.piece? settings.context = some piece := by
    intro step hstep hpiece
    rwa [← (Step.hollow_spec settings.context (hsteps step hstep)).1,
      Option.isSome_iff_exists] at hpiece
  rcases hneeded with rfl | ⟨hcollapse, step, hstep, hcalls, hadds⟩
  · rw [run_snd] at hpieces
    obtain ⟨piece, hmem⟩ := List.exists_mem_of_ne_nil _ hpieces
    obtain ⟨step, hstep, hadds⟩ := List.mem_filterMap.mp
      ((List.mem_append.mp hmem).resolve_left List.not_mem_nil)
    obtain ⟨written, hwritten⟩ := hpiece? step hstep (Option.isSome_of_eq_some hadds)
    exact looksUp_of_load_mem_uses hsteps (.inl rfl)
      ((huses _).mpr (.inr (.inr ⟨step, hstep, written, hwritten, .inl rfl⟩)))
  · obtain ⟨written, hwritten⟩ := hpiece? step hstep hadds
    have huse := (Step.loads_hollow (hsteps step hstep) hwritten name).2.2 hcollapse hcalls
    exact looksUp_of_load_mem_uses hsteps (.inr hcollapse)
      ((huses _).mpr (.inr (.inr ⟨step, hstep, written, hwritten, .inr huse⟩)))

end hollowRun

/-- The modules that a run imports are those of its calls that collapse white space. -/
theorem mem_imports_run {settings : Settings} {steps : List Step}
    (hsteps : ∀ step ∈ steps, step.IsBuiltIn) {name : String}
    (hname : name ∈ ((ofSettings settings).run steps).2.imports) :
    name ∈ collapseNames ∧ Collapses settings.context steps := by
  have himports : ∀ plugin ∈ Plugin.registry, name ∈ plugin.imports →
      plugin = Plugin.whitespace ∧ name ∈ collapseNames := by
    intro plugin hplugin himport
    simp only [Plugin.registry, List.mem_cons, List.not_mem_nil, or_false] at hplugin
    rcases hplugin with rfl | rfl | rfl
    · cases himport
    · cases List.mem_singleton.mp himport
      exact ⟨rfl, List.mem_cons_self⟩
    · cases himport
  rw [run_snd] at hname
  have hneeded := (mem_insertNames_iff.mp hname).resolve_right List.not_mem_nil
  obtain ⟨reference, entries, plugin, code, hstep, hresolve, hcode, himport⟩ :=
    mem_flatMap_needed_iff.mp hneeded
  have hplugin := Reference.mem_registry_of_resolve (hsteps _ hstep) hresolve
  obtain ⟨rfl, hcollapse⟩ := himports plugin hplugin himport
  have hpiece : (Step.call reference entries).piece? settings.context = some code :=
    toOption_eq_some_iff.mpr hcode
  exact ⟨hcollapse, _, hstep, hresolve, by rw [hpiece, Option.isSome_some]⟩

/-- The function name has no part in the statements. -/
theorem uses_hollowRun_renamed (settings : Settings) (name : String) (steps : List Step) :
    (hollowRun { settings with functionName := name } steps).uses =
      (hollowRun settings steps).uses := by
  rw [uses, uses, statements, statements, hollowRun, hollowRun, run_snd, run_snd]
  rfl

/-- A function with a piece looks up `str`, and with a call that collapses white space the modules
that it imports, `isinstance` and `bytes`. It captures its own name exactly if this is one of them
in its normal form. And each of them is accepted as a function name, and then captured. -/
theorem captured_names (normalForm : String → String)
    (hascii : ∀ text : String, text.toList.all (·.toNat < 0x80) = true → normalForm text = text)
    {settings : Settings} (haccepted : settings.IsAccepted) {steps : List Step}
    (hsteps : ∀ step ∈ steps, step.IsBuiltIn)
    (hpieces : ((ofSettings settings).run steps).2.pieces ≠ []) :
    let built := ((ofSettings settings).run steps).2
    let hollow := hollowRun settings steps
    (hollow.functionName = built.functionName ∧ hollow.imports = built.imports ∧
      hollow.pieces.length = built.pieces.length) ∧
    (∀ name, hollow.LooksUp name ↔ Needs settings.context steps name) ∧
    (∀ name ∈ built.imports, hollow.LooksUp name) ∧
    (hollow.CapturesName normalForm ↔
      Needs settings.context steps (normalForm settings.functionName)) ∧
    ∀ name, Needs settings.context steps name →
      let renamed := { settings with functionName := name }
      Settings.ofDraft renamed.toDraft = .ok renamed ∧
        (hollowRun renamed steps).CapturesName normalForm := by
  intro built hollow
  have hlooksUp : ∀ name, hollow.LooksUp name ↔ Needs settings.context steps name :=
    fun _ ↦ ⟨needs_of_looksUp hsteps, looksUp_of_needs hsteps hpieces⟩
  refine ⟨⟨?_, run_hollow hsteps⟩, hlooksUp, fun name himport ↦ ?_, ?_, fun name hneeded ↦ ?_⟩
  · exact (functionName_run settings _).trans (functionName_run settings steps).symm
  · exact (hlooksUp name).mpr (.inr (mem_imports_run hsteps himport))
  · rw [CapturesName, show hollow.functionName = settings.functionName from functionName_run _ _]
    exact hlooksUp _
  · intro renamed
    have hcharacters : isIdentifier name.toList = true ∧
        name.toList.all (·.toNat < 0x80) = true := by
      rcases hneeded with rfl | ⟨hcollapse, _⟩
      · decide
      · simp only [collapseNames, List.mem_cons, List.not_mem_nil, or_false] at hcollapse
        rcases hcollapse with rfl | rfl | rfl <;> decide
    have hname : normalForm (hollowRun renamed steps).functionName = name := by
      rw [show (hollowRun renamed steps).functionName = name from functionName_run renamed _,
        hascii name hcharacters.2]
    refine ⟨haccepted.ofDraft_renamed hcharacters.1, ?_⟩
    rw [CapturesName, hname, LooksUp, uses_hollowRun_renamed]
    exact (hlooksUp name).mpr hneeded

/-- A text and a call that collapses white space, in a function that has the name of the module
which the call needs. -/
theorem captured_names_re :
    let settings : Settings := {}
    let renamed : Settings := { functionName := "re" }
    let steps := [Step.text "a", .call (.named "whitespace") [.pair none "self.text"]]
    settings.IsAccepted ∧ (∀ step ∈ steps, step.IsBuiltIn) ∧
      ((ofSettings settings).run steps).2.pieces ≠ [] ∧
      ((ofSettings settings).run steps).2.imports = ["re"] ∧
      ¬(hollowRun settings steps).CapturesName id ∧
      Settings.ofDraft renamed.toDraft = .ok renamed ∧
      (hollowRun renamed steps).CapturesName id := by
  intro settings renamed steps
  have haccepted : settings.IsAccepted := .ofDraft {} rfl
  have hsteps : ∀ step ∈ steps, step.IsBuiltIn :=
    List.forall_mem_cons.mpr ⟨trivial, List.forall_mem_singleton.mpr trivial⟩
  have hpieces : ((ofSettings settings).run steps).2.pieces ≠ [] := by decide +kernel
  have himports : ((ofSettings settings).run steps).2.imports = ["re"] := by decide +kernel
  obtain ⟨_, hlooksUp, hlooked, hcaptures, hrenamed⟩ :=
    captured_names id (fun _ _ ↦ rfl) haccepted hsteps hpieces
  have hre := hlooked "re" (by rw [himports]; exact List.mem_cons_self)
  refine ⟨haccepted, hsteps, hpieces, himports, ?_, hrenamed "re" ((hlooksUp "re").mp hre)⟩
  rw [hcaptures]
  rintro (hname | ⟨hname, _⟩)
  · exact absurd hname (by decide)
  · exact absurd hname (by decide)

end RenderModule

end TemplateCalls
