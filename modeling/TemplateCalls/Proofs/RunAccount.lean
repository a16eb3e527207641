import Mathlib.Data.List.Sort
import Mathlib.Data.String.Basic
import TemplateCalls.Proofs.StepRuns

/-!
# What a run of steps amounts to

What a step adds to a module depends on the step and on the context of the module, not on the steps
before it: a text its literal, a call its expression and the modules that its plugin needs, and
anything refused nothing. So a module is an account of its run. Its pieces stand in the order of the
steps; its imports are those of all calls that were not refused, each once and in the order of
names, whatever the order of the calls. In another order of the same steps only the statements
change places, and with their steps.

Plugins from outside are covered as far as they are functions of the context and of what is bound to
their parameters.
-/

namespace TemplateCalls

/-! ## Names in order -/

def insertNames (added names : List String) : List String :=
  added.foldl (fun names name ↦ insertName name names) names

variable {name other : String} {added names : List String}

theorem mem_insertName_iff : name ∈ insertName other names ↔ name = other ∨ name ∈ names := by
  induction names with
  | nil => simp [insertName]
  | cons first rest ih =>
    unfold insertName
    split
    · exact List.mem_cons
    · split
      · next heq => simp [heq]
      · rw [List.mem_cons, ih, List.mem_cons, or_left_comm]

theorem mem_insertNames_iff : name ∈ insertNames added names ↔ name ∈ added ∨ name ∈ names := by
  induction added generalizing names with
  | nil => simp [insertNames]
  | cons first rest ih =>
    have hrest : name ∈ insertNames rest (insertName first names) ↔ _ := ih
    rw [insertNames, List.foldl_cons, ← insertNames, hrest, mem_insertName_iff, List.mem_cons,
      or_assoc, or_left_comm]

theorem pairwise_insertName (hnames : names.Pairwise (· < ·)) :
    (insertName other names).Pairwise (· < ·) := by
  induction names with
  | nil => exact List.pairwise_singleton _ _
  | cons first rest ih =>
    obtain ⟨hfirst, hrest⟩ := List.pairwise_cons.mp hnames
    unfold insertName
    split
    · next hlt =>
      refine List.pairwise_cons.mpr ⟨List.forall_mem_cons.mpr ⟨hlt, ?_⟩, hnames⟩
      exact fun name hname ↦ String.lt_trans hlt (hfirst name hname)
    · next hge =>
      split
      · exact hnames
      · next hne =>
        have hlt : first < other := lt_of_le_of_ne (String.not_lt.mp hge) (Ne.symm hne)
        refine List.pairwise_cons.mpr ⟨fun name hname ↦ ?_, ih hrest⟩
        rcases mem_insertName_iff.mp hname with rfl | hmem
        · exact hlt
        · exact hfirst name hmem

theorem pairwise_insertNames (hnames : names.Pairwise (· < ·)) :
    (insertNames added names).Pairwise (· < ·) := by
  induction added generalizing names with
  | nil => exact hnames
  | cons first rest ih => exact ih (pairwise_insertName hnames)

/-- Names in strictly increasing order are told by their members. -/
theorem insertNames_nil_congr {others : List String}
    (hmem : ∀ name, name ∈ added ↔ name ∈ others) :
    insertNames added [] = insertNames others [] := by
  have hadded : (insertNames added []).Pairwise (· < ·) := pairwise_insertNames .nil
  have hothers : (insertNames others []).Pairwise (· < ·) := pairwise_insertNames .nil
  refine hadded.sortedLT.eq_of_mem_iff hothers.sortedLT fun name ↦ ?_
  rw [mem_insertNames_iff, mem_insertNames_iff, hmem name]

namespace RenderModule

/-! ## What a step adds -/

def Step.piece? (context : Context) : Step → Option String
  | .text output => if output.isEmpty then none else some (Text.quote output)
  | .call reference entries => (compileCall context reference entries).toOption
  | .compile => none

/-- The modules that the code of a step needs. -/
def Step.needed (context : Context) : Step → List String
  | .call reference entries =>
    match reference.resolve, compileCall context reference entries with
    | .ok plugin, .ok _ => plugin.imports
    | _, _ => []
  | _ => []

theorem Step.mem_needed_iff {context : Context} {step : Step} :
    name ∈ step.needed context ↔
      ∃ reference entries plugin code, step = .call reference entries ∧
        reference.resolve = .ok plugin ∧ compileCall context reference entries = .ok code ∧
        name ∈ plugin.imports := by
  cases step with
  | text output => simp [needed]
  | compile => simp [needed]
  | call reference entries =>
    rw [needed]
    constructor
    · intro hname
      split at hname
      · next plugin code hresolve hcode =>
        exact ⟨reference, entries, plugin, code, rfl, hresolve, hcode, hname⟩
      · cases hname
    · rintro ⟨_, _, plugin, code, heq, hresolve, hcode, hname⟩
      cases heq
      rw [hresolve, hcode]
      exact hname

/-- The modules that steps need are those of the plugins whose calls are not refused. -/
theorem mem_flatMap_needed_iff {context : Context} {steps : List Step} :
    name ∈ steps.flatMap (·.needed context) ↔
      ∃ reference entries plugin code, Step.call reference entries ∈ steps ∧
        reference.resolve = .ok plugin ∧ compileCall context reference entries = .ok code ∧
        name ∈ plugin.imports := by
  rw [List.mem_flatMap]
  constructor
  · rintro ⟨step, hstep, hname⟩
    obtain ⟨reference, entries, plugin, code, rfl, hcall⟩ := Step.mem_needed_iff.mp hname
    exact ⟨reference, entries, plugin, code, hstep, hcall⟩
  · rintro ⟨reference, entries, plugin, code, hstep, hcall⟩
    exact ⟨_, hstep, Step.mem_needed_iff.mpr ⟨reference, entries, plugin, code, rfl, hcall⟩⟩

/-- A step adds what it is to add, and changes nothing else. -/
theorem step_snd (target : RenderModule) (step : Step) :
    (target.step step).2 =
      { target with
        imports := insertNames (step.needed target.context) target.imports
        pieces := target.pieces ++ (step.piece? target.context).toList } := by
  cases step with
  | text output =>
    rw [step_text, Step.piece?]
    cases output.isEmpty with
    | true => simp [Step.needed, insertNames]
    | false => simp [Step.needed, insertNames]
  | compile =>
    rw [step_compile]
    simp [Step.needed, Step.piece?, insertNames]
  | call reference entries =>
    rw [step_call, Step.needed, Step.piece?, compileCall_eq_map_expressionOf]
    cases hresolve : reference.resolve with
    | error fault => simp [expressionOf, hresolve, insertNames, Except.map, Except.toOption]
    | ok plugin =>
      rw [expressionOf_of_resolve hresolve]
      cases plugin.compile target.context entries with
      | error fault => simp [insertNames, Except.map, Except.toOption]
      | ok code => rfl

/-- A run adds what its steps add, each by itself. -/
theorem run_snd (target : RenderModule) (steps : List Step) :
    (target.run steps).2 =
      { target with
        imports := insertNames (steps.flatMap (·.needed target.context)) target.imports
        pieces := target.pieces ++ steps.filterMap (·.piece? target.context) } := by
  induction steps generalizing target with
  | nil => simp [run, insertNames]
  | cons step rest ih =>
    rw [run_cons, ih, step_snd]
    simp only [insertNames, List.flatMap_cons, List.foldl_append, List.append_assoc]
    cases hpiece : step.piece? target.context with
    | none => rw [List.filterMap_cons_none hpiece]; rfl
    | some piece => rw [List.filterMap_cons_some hpiece]; rfl

/-- The expression of a call is the one that the call has by itself. -/
theorem step_call_fst (target : RenderModule) (reference : Reference) (entries : List Entry) :
    (target.step (.call reference entries)).1 =
      (compileCall target.context reference entries).map some := by
  rw [step_call, compileCall_eq_map_expressionOf]
  cases target.expressionOf reference entries <;> rfl

/-! ## The source -/

def ended (lines : List String) : String := String.join (lines.map (· ++ "\n"))

theorem ended_cons (line : String) (lines : List String) :
    ended (line :: lines) = line ++ "\n" ++ ended lines :=
  String.join_cons

theorem ended_append (lines others : List String) :
    ended (lines ++ others) = ended lines ++ ended others := by
  rw [ended, List.map_append, String.join_append, ← ended, ← ended]

theorem intercalate_concat_empty (lines : List String) :
    "\n".intercalate (lines ++ [""]) = ended lines := by
  induction lines with
  | nil => rfl
  | cons first rest ih =>
    rw [List.cons_append, String.intercalate_cons_of_ne_nil (by simp), ih, ended_cons]

/-- The lines before the statements: the imports, one on each line and two blank lines behind them,
if there are any, and the lines that open the function. -/
def openingLines (functionName : String) (imports : List String) : List String :=
  (if imports = [] then [] else imports.map ("import " ++ ·) ++ ["", ""]) ++
    ["def " ++ functionName ++ "(self):", "    _out = []"]

theorem source_eq (target : RenderModule) :
    target.source = ended (openingLines target.functionName target.imports)
      ++ ended (target.pieces.map appendLine) ++ ended ["    return ''.join(_out)"] := by
  have hlines : target.lines = openingLines target.functionName target.imports
      ++ target.pieces.map appendLine ++ ["    return ''.join(_out)"] ++ [""] := by
    simp only [lines, openingLines, importLines, List.isEmpty_iff, List.append_assoc,
      List.cons_append, List.nil_append]
  rw [source, hlines, intercalate_concat_empty, ended_append, ended_append]

def Step.statement? (context : Context) (step : Step) : Option String :=
  (step.piece? context).map appendLine

/-! ## The account -/

/-- A run leaves the module with the pieces and the imports of its steps, and gives every call the
expression that it has by itself. A compilation changes nothing. In every order of the steps the
source has the same lines up to the statements, which go with their steps. -/
theorem run_accounts_for_steps (context : Context) (functionName : String) (steps : List Step) :
    let start : RenderModule := { context, functionName }
    let built := (start.run steps).2
    built.pieces = steps.filterMap (·.piece? context) ∧
    (∀ name, name ∈ built.imports ↔ ∃ reference entries plugin code,
      .call reference entries ∈ steps ∧ reference.resolve = .ok plugin ∧
        compileCall context reference entries = .ok code ∧ name ∈ plugin.imports) ∧
    built.imports.Pairwise (· < ·) ∧
    (∀ reference entries, (built.step (.call reference entries)).1 =
      (compileCall context reference entries).map some) ∧
    built.step .compile = (.ok (some built.source), built) ∧
    ∀ order, steps.Perm order →
      (start.run order).2.source = ended (openingLines functionName built.imports)
        ++ ended (order.filterMap (·.statement? context))
        ++ ended ["    return ''.join(_out)"] := by
  intro start built
  have hrun : ∀ order : List Step, (start.run order).2 =
      { start with
        imports := insertNames (order.flatMap (·.needed context)) []
        pieces := order.filterMap (·.piece? context) } := run_snd start
  have hbuilt : built = _ := hrun steps
  have hcontext : built.context = context := by rw [hbuilt]
  refine ⟨by rw [hbuilt], fun name ↦ ?_, ?_, fun reference entries ↦ ?_, rfl, fun order horder ↦ ?_⟩
  · rw [hbuilt, mem_insertNames_iff, mem_flatMap_needed_iff]
    simp only [List.not_mem_nil, or_false]
  · rw [hbuilt]
    exact pairwise_insertNames .nil
  · rw [step_call_fst, hcontext]
  · have himports : insertNames (order.flatMap (·.needed context)) [] = built.imports := by
      rw [hbuilt]
      refine insertNames_nil_congr fun name ↦ ?_
      rw [List.mem_flatMap, List.mem_flatMap]
      simp only [horder.mem_iff]
    have hstatements : (order.filterMap (·.piece? context)).map appendLine =
        order.filterMap (·.statement? context) := List.map_filterMap
    calc (start.run order).2.source
      _ = ended (openingLines functionName (insertNames (order.flatMap (·.needed context)) []))
          ++ ended ((order.filterMap (·.piece? context)).map appendLine)
          ++ ended ["    return ''.join(_out)"] := by rw [hrun order, source_eq]
      _ = _ := by rw [himports, hstatements]

/-- Calls that need a module before and after one that does not, a refused call, an empty text and a
compilation between them; and the same steps with the first three behind the others. -/
theorem run_accounts_for_steps_reordered :
    let output := Step.text "it's"
    let collapse := Step.call (.named "whitespace") [.pair none "x"]
    let refused := Step.call (.named "array") [.argument (.index "-1" "y")]
    let literal := Step.call (.named "array") [.pair (some "k") "z"]
    let steps := [refused, output, collapse, .text "", .compile, literal, collapse]
    let order := [.text "", .compile, literal, collapse, refused, output, collapse]
    let statements := order.filterMap (·.statement? {})
    steps.Perm order ∧
      (run { context := {} } steps).2.imports = ["re"] ∧
      (run { context := {} } order).2.source =
        "import re\n\n\ndef render(self):\n    _out = []\n" ++ ended statements
          ++ "    return ''.join(_out)\n" ∧
      statements.length = 4 := by
  intro output collapse refused literal steps order statements
  have horder : steps.Perm order :=
    @List.perm_append_comm _ [refused, output, collapse] [.text "", .compile, literal, collapse]
  have himports : (run { context := {} } steps).2.imports = ["re"] := by decide +kernel
  have hsource := (run_accounts_for_steps {} "render" steps).2.2.2.2.2 order horder
  refine ⟨horder, himports, ?_, by decide +kernel⟩
  rw [hsource, himports]
  rfl

end RenderModule

end TemplateCalls
