import TemplateCalls.Proofs.RunAccount
import TemplateCalls.Proofs.SelfContainedCalls
import TemplateCalls.Proofs.SourceReading

/-!
# Runs that can be read back

Texts may be added to a module without restriction, and calls of built-in plugins if their arguments
are self-contained. Every piece that such steps add is self-contained. So the source of the module
says what its function is called, what it imports and what its pieces are, and modules that differ
in one of these have different sources.
-/

namespace TemplateCalls

namespace Text

/-! ## Identifiers -/

theorem isIdentifierPart_of_isIdentifierStart {character : Char}
    (hstart : isIdentifierStart character = true) : isIdentifierPart character = true := by
  unfold isIdentifierStart at hstart
  unfold isIdentifierPart
  split at hstart
  · next hascii =>
    rw [if_pos hascii]
    simp only [isAsciiIdentifierStart, isAsciiIdentifierPart, Char.isAlphanum, Bool.or_eq_true]
      at hstart ⊢
    exact hstart.imp .inl id
  · next hascii => rw [if_neg hascii, hstart, Bool.true_or]

theorem isIdentifierPart_of_mem {name : List Char} {character : Char}
    (hname : isIdentifier name = true) (hmem : character ∈ name) :
    isIdentifierPart character = true := by
  cases name with
  | nil => cases hmem
  | cons first rest =>
    simp only [isIdentifier, Bool.and_eq_true, List.all_eq_true] at hname
    rcases List.mem_cons.mp hmem with rfl | hrest
    · exact isIdentifierPart_of_isIdentifierStart hname.1
    · exact hname.2 character hrest

/-- No character of an identifier opens a bracket or ends a line. -/
theorem ne_of_mem_identifier {name : List Char} {character : Char}
    (hname : isIdentifier name = true) (hmem : character ∈ name) :
    character ≠ '(' ∧ character ≠ '\n' := by
  have hpart := isIdentifierPart_of_mem hname hmem
  constructor <;> rintro rfl <;> revert hpart <;> decide

theorem escape_not_mem_of_isIdentifier {name : List Char} (hname : isIdentifier name = true) :
    '\x1B' ∉ name := fun hescape ↦
  absurd (isIdentifierPart_of_mem hname hescape) (by decide)

end Text

/-! ## Imports -/

/-- The built-in plugins import modules by identifiers. -/
theorem Plugin.isIdentifier_of_mem_imports {plugin : Plugin} (hplugin : plugin ∈ registry)
    {name : String} (hname : name ∈ plugin.imports) : Text.isIdentifier name.toList = true := by
  have himports : ∀ plugin ∈ registry, ∀ name ∈ plugin.imports,
      Text.isIdentifier name.toList = true := by
    decide
  exact himports plugin hplugin name hname

/-! ## Steps -/

def Reference.IsBuiltIn : Reference → Prop
  | .named _ => True
  | .external plugin => plugin ∈ Plugin.registry

theorem Plugin.mem_registry_of_find? {reference : String} {plugin : Plugin}
    (hfind : find? reference = some plugin) : plugin ∈ registry := by
  rcases Option.or_eq_some_iff.mp hfind with hfull | ⟨_, hshort⟩
  · exact List.mem_of_find?_eq_some hfull
  · exact List.mem_of_find?_eq_some hshort

theorem Reference.mem_registry_of_resolve {reference : Reference} {plugin : Plugin}
    (hbuiltIn : reference.IsBuiltIn) (hresolve : reference.resolve = .ok plugin) :
    plugin ∈ Plugin.registry := by
  cases reference with
  | named text =>
    cases hfind : Plugin.find? text with
    | none => simp [resolve, hfind] at hresolve
    | some found =>
      simp only [resolve, hfind, Except.ok.injEq] at hresolve
      rw [← hresolve]
      exact Plugin.mem_registry_of_find? hfind
  | external other =>
    cases hresolve
    exact hbuiltIn

namespace RenderModule

/-- A step that adds nothing but self-contained pieces. -/
def Step.IsSelfContained : Step → Prop
  | .call reference entries => reference.IsBuiltIn ∧
      ∀ argument ∈ entries.filterMap Entry.argument?, argument.IsSelfContained
  | _ => True

/-- A module whose source can be read back, whatever its function is called. -/
structure IsSelfContained (target : RenderModule) : Prop where
  imports : ∀ name ∈ target.imports, '\n' ∉ name.toList
  pieces : ∀ piece ∈ target.pieces, isSelfContained piece = true

/-- A self-contained step keeps the module self-contained, also when it is refused. -/
theorem IsSelfContained.step {target : RenderModule} {step : Step}
    (htarget : target.IsSelfContained) (hstep : step.IsSelfContained) :
    (target.step step).2.IsSelfContained := by
  cases step with
  | compile => exact htarget
  | text output =>
    rw [step_text]
    cases output.isEmpty with
    | true => exact htarget
    | false =>
      refine ⟨htarget.imports, List.forall_mem_append.mpr ⟨htarget.pieces, ?_⟩⟩
      exact List.forall_mem_singleton.mpr (isSelfContained_text_quote output)
  | call reference entries =>
    rw [step_call]
    cases hexpression : target.expressionOf reference entries with
    | error fault => exact htarget
    | ok result =>
      obtain ⟨plugin, code⟩ := result
      obtain ⟨_, hresolve, hcompile⟩ := Outcome.bind_eq_ok_iff.mp hexpression
      obtain ⟨_, hcode, heq⟩ := Outcome.bind_eq_ok_iff.mp hcompile
      cases heq
      have hplugin := Reference.mem_registry_of_resolve hstep.1 hresolve
      have hpiece := Plugin.isSelfContained_of_compile hplugin hstep.2 hcode
      refine ⟨fun name hname ↦ ?_, List.forall_mem_append.mpr
        ⟨htarget.pieces, List.forall_mem_singleton.mpr hpiece⟩⟩
      rcases mem_insertNames_iff.mp hname with hadded | hbefore
      · have hidentifier := Plugin.isIdentifier_of_mem_imports hplugin hadded
        exact fun hfeed ↦ (Text.ne_of_mem_identifier hidentifier hfeed).2 rfl
      · exact htarget.imports name hbefore

/-- Self-contained steps keep the module self-contained, however many they are. -/
theorem IsSelfContained.run {target : RenderModule} {steps : List Step}
    (htarget : target.IsSelfContained) (hsteps : ∀ step ∈ steps, step.IsSelfContained) :
    (target.run steps).2.IsSelfContained := by
  induction steps generalizing target with
  | nil => exact htarget
  | cons step rest ih =>
    rw [List.forall_mem_cons] at hsteps
    rw [run_cons]
    exact ih (htarget.step hsteps.1) hsteps.2

/-! ## Sources -/

/-- The source after self-contained steps reads back as the module. -/
theorem read?_source_run {context : Context} {functionName : String} {steps : List Step}
    (hname : Text.isIdentifier functionName.toList = true)
    (hsteps : ∀ step ∈ steps, step.IsSelfContained) :
    let built := (run { context, functionName } steps).2
    Reading.read? built.source = some ⟨functionName, built.imports, built.pieces⟩ := by
  intro built
  have hempty : IsSelfContained { context, functionName } := ⟨by simp, by simp⟩
  have hbuilt : built.IsSelfContained := hempty.run hsteps
  have hfunction : built.functionName = functionName :=
    congrArg RenderModule.functionName (run_snd _ steps)
  have hcharacters : ∀ character ∈ built.functionName.toList,
      character ≠ '(' ∧ character ≠ '\n' := by
    rw [hfunction]
    exact fun _ ↦ Text.ne_of_mem_identifier hname
  rw [Reading.read?_source hcharacters hbuilt.imports hbuilt.pieces, hfunction]

/-- The source of a module tells the name of its function, its imports and its pieces, which a
reader finds one after another; and so two runs with the same source agree in all of them. -/
theorem source_reads_back {context : Context} {functionName : String} {steps : List Step}
    (hname : Text.isIdentifier functionName.toList = true)
    (hsteps : ∀ step ∈ steps, step.IsSelfContained) :
    let built := (run { context, functionName } steps).2
    Reading.read? built.source = some ⟨functionName, built.imports, built.pieces⟩ ∧
      ∀ (otherContext : Context) (otherName : String) (otherSteps : List Step),
        Text.isIdentifier otherName.toList = true →
        (∀ step ∈ otherSteps, step.IsSelfContained) →
        let other := (run { context := otherContext, functionName := otherName } otherSteps).2
        other.source = built.source →
          otherName = functionName ∧ other.imports = built.imports ∧
            other.pieces = built.pieces := by
  intro built
  have hread : Reading.read? built.source = some ⟨functionName, built.imports, built.pieces⟩ :=
    read?_source_run hname hsteps
  refine ⟨hread, ?_⟩
  intro otherContext otherName otherSteps hother hothers other hsource
  have hagain : Reading.read? other.source = some ⟨otherName, other.imports, other.pieces⟩ :=
    read?_source_run hother hothers
  rw [hsource, hread, Option.some.injEq, Reading.mk.injEq] at hagain
  exact ⟨hagain.1.symm, hagain.2.1.symm, hagain.2.2.symm⟩

/-- Quotation marks, brackets and comments in texts, keys and values; and the same run with an
empty text before it. -/
theorem source_reads_back_mixed :
    let steps : List Step := [
      .text "it's (\n",
      .call (.named "whitespace") [.pair none "x[')']", .pair (some "with") "'' # \"\n"],
      .call (.named "helpers/array") [.pair (some "a'\x7b") "f(\"#\")",
        .argument (.computed "self.scope['k']" "'''\n''\\''''")]]
    let built := (run { context := {} } steps).2
    let other := (run { context := {} } (.text "" :: steps)).2
    Text.isIdentifier "render".toList = true ∧
      (∀ step ∈ steps, step.IsSelfContained) ∧
      built.pieces.length = 3 ∧ built.imports = ["re"] ∧
      Reading.read? built.source = some ⟨"render", built.imports, built.pieces⟩ ∧
      other.pieces = built.pieces := by
  intro steps built other
  have hname : Text.isIdentifier "render".toList = true := by decide
  have hsteps : ∀ step ∈ steps, step.IsSelfContained := by
    simp only [steps, List.forall_mem_cons]
    exact ⟨trivial, ⟨trivial, by decide +kernel⟩, ⟨trivial, by decide +kernel⟩, by simp⟩
  have hothers : ∀ step ∈ .text "" :: steps, step.IsSelfContained :=
    List.forall_mem_cons.mpr ⟨trivial, hsteps⟩
  have hread : Reading.read? built.source = some ⟨"render", built.imports, built.pieces⟩ :=
    (source_reads_back hname hsteps).1
  have hsame : other.source = built.source → _ ∧ _ ∧ other.pieces = built.pieces :=
    (source_reads_back hname hsteps).2 {} "render" (.text "" :: steps) hname hothers
  exact ⟨hname, hsteps, by decide +kernel, by decide +kernel, hread, (hsame rfl).2.2⟩

end RenderModule

end TemplateCalls
