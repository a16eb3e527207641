import TemplateCalls.Proofs.Outcome
import TemplateCalls.RenderModule

/-!
# Runs of steps on a render module

A call changes a module only after its plugin has been found, its arguments have been bound and its
expression has been generated. A step that is refused therefore leaves the module as it was, and a
run gives what it would give without its refused steps: the same results, and the same module.

A plugin, built-in or not, is a function of the context and of what is bound to its parameters; one
that remembers its calls is not covered.
-/

namespace TemplateCalls.RenderModule

variable {α β : Type}

/-! ## Changes -/

/-- A change that goes on after another finds the module as the other left it. -/
theorem perform_bind (target : RenderModule) (change : Change α) (next : α → Change β) :
    target.perform (change >>= next) =
      match target.perform change with
      | (.ok value, after) => after.perform (next value)
      | (.error fault, after) => (.error fault, after) := by
  unfold perform
  rw [ExceptT.run_bind, StateT.run_bind]
  rcases change.run.run target with ⟨outcome, after⟩
  cases outcome <;> rfl

theorem perform_lift (target : RenderModule) (outcome : Except Fault α) :
    target.perform (liftM outcome) = (outcome, target) := rfl

theorem perform_get (target : RenderModule) : target.perform get = (.ok target, target) := rfl

def withCall (target : RenderModule) (plugin : Plugin) (code : String) : RenderModule :=
  { target with
    imports := plugin.imports.foldl (fun names name ↦ insertName name names) target.imports
    pieces := target.pieces ++ [code] }

/-- The plugin and the expression of a call. -/
def expressionOf (target : RenderModule) (reference : Reference) (entries : List Entry) :
    Except Fault (Plugin × String) := do
  let plugin ← reference.resolve
  let code ← plugin.compile target.context entries
  return (plugin, code)

theorem expressionOf_of_resolve {reference : Reference} {plugin : Plugin}
    (hresolve : reference.resolve = .ok plugin) (target : RenderModule) (entries : List Entry) :
    target.expressionOf reference entries =
      (plugin.compile target.context entries).map (plugin, ·) := by
  rw [expressionOf, hresolve, Outcome.ok_bind]
  cases plugin.compile target.context entries <;> rfl

theorem resolve_of_expressionOf {target : RenderModule} {reference : Reference}
    {entries : List Entry} {plugin : Plugin} {code : String}
    (hexpression : target.expressionOf reference entries = .ok (plugin, code)) :
    reference.resolve = .ok plugin := by
  obtain ⟨found, hresolve, hcompile⟩ := Outcome.bind_eq_ok_iff.mp hexpression
  obtain ⟨other, _, hpair⟩ := Outcome.bind_eq_ok_iff.mp hcompile
  cases hpair
  exact hresolve

theorem compileCall_eq_map_expressionOf (target : RenderModule) (reference : Reference)
    (entries : List Entry) :
    compileCall target.context reference entries =
      (target.expressionOf reference entries).map Prod.snd := by
  rw [compileCall]
  cases hresolve : reference.resolve with
  | error fault => rw [expressionOf, hresolve]; rfl
  | ok plugin =>
    rw [expressionOf_of_resolve hresolve, Outcome.ok_bind]
    cases plugin.compile target.context entries <;> rfl

/-! ## Steps -/

theorem step_text (target : RenderModule) (output : String) :
    target.step (.text output) =
      (.ok none,
        if output.isEmpty then target
        else { target with pieces := target.pieces ++ [Text.quote output] }) := by
  cases hempty : output.isEmpty <;> simp only [step, Step.change, addText, hempty] <;> rfl

/-- A call is all or nothing: the module changes only once the expression is there. -/
theorem perform_addCall (target : RenderModule) (reference : Reference) (entries : List Entry) :
    target.perform (addCall reference entries) =
      match target.expressionOf reference entries with
      | .ok (plugin, code) => (.ok code, target.withCall plugin code)
      | .error fault => (.error fault, target) := by
  simp only [addCall, expressionOf, perform_bind, perform_lift, perform_get]
  cases reference.resolve with
  | error fault => rfl
  | ok plugin =>
    simp only [Outcome.ok_bind]
    cases plugin.compile target.context entries <;> rfl

theorem step_call (target : RenderModule) (reference : Reference) (entries : List Entry) :
    target.step (.call reference entries) =
      match target.expressionOf reference entries with
      | .ok (plugin, code) => (.ok (some code), target.withCall plugin code)
      | .error fault => (.error fault, target) := by
  simp only [step, Step.change, perform_bind, perform_addCall]
  cases target.expressionOf reference entries <;> rfl

theorem step_compile (target : RenderModule) :
    target.step .compile = (.ok (some target.source), target) := rfl

/-- A refused step leaves the module as it was. -/
theorem eq_of_step_error {target next : RenderModule} {step : Step} {fault : Fault}
    (hstep : target.step step = (.error fault, next)) : next = target := by
  cases step with
  | text output =>
    rw [step_text] at hstep
    cases hstep
  | call reference entries =>
    rw [step_call] at hstep
    split at hstep
    · cases hstep
    · exact (congrArg Prod.snd hstep).symm
  | compile =>
    rw [step_compile] at hstep
    cases hstep

/-! ## Runs without their refused steps -/

def succeeding (target : RenderModule) : List Step → List Step
  | [] => []
  | step :: rest =>
    match target.step step with
    | (.ok _, next) => step :: succeeding next rest
    | (.error _, next) => succeeding next rest

theorem run_cons (target : RenderModule) (step : Step) (rest : List Step) :
    target.run (step :: rest) =
      ((target.step step).1 :: ((target.step step).2.run rest).1,
        ((target.step step).2.run rest).2) := rfl

/-- Without the refused steps a run makes the same module: a refused step leaves it as it was, so
whatever follows starts from the same one. -/
theorem run_succeeding (target : RenderModule) (steps : List Step) :
    target.run (target.succeeding steps) =
      ((target.run steps).1.filter Except.isOk, (target.run steps).2) := by
  induction steps generalizing target with
  | nil => rfl
  | cons step rest ih =>
    rw [run_cons, succeeding]
    rcases hstep : target.step step with ⟨outcome, next⟩
    cases outcome with
    | error fault =>
      obtain rfl := eq_of_step_error hstep
      exact ih next
    | ok result =>
      dsimp only
      rw [run_cons, hstep, ih next]
      rfl

/-- A refused call leaves pieces and imports alone, in whatever state the module is; and a run gives
what it gives without its refused steps, the results of the others and the final module with its
source. -/
theorem failed_steps_leave_no_trace (target : RenderModule) :
    (∀ (reference : Reference) (entries : List Entry) (fault : Fault) (next : RenderModule),
      target.step (.call reference entries) = (.error fault, next) →
        next.pieces = target.pieces ∧ next.imports = target.imports ∧ next = target) ∧
    ∀ steps : List Step,
      (target.run (target.succeeding steps)).1 = (target.run steps).1.filter Except.isOk ∧
      (target.run (target.succeeding steps)).2 = (target.run steps).2 ∧
      (target.run (target.succeeding steps)).2.source = (target.run steps).2.source := by
  constructor
  · intro reference entries fault next hstep
    have hnext := eq_of_step_error hstep
    exact ⟨congrArg pieces hnext, congrArg imports hnext, hnext⟩
  · intro steps
    rw [run_succeeding]
    exact ⟨rfl, rfl, rfl⟩

theorem failed_steps_leave_no_trace_between_texts :
    let target : RenderModule := { context := {} }
    let unknown := Reference.named "functions/none"
    let steps := [.text "a", .call unknown [], .call (.named "array") [.pair (some "0") "x"],
      .compile]
    target.step (.call unknown []) = (.error (.unknownPlugin "functions/none"), target) ∧
      (target.step (.call unknown [])).2 = target ∧
      (target.run (target.succeeding steps)).2 = (target.run steps).2 := by
  intro target unknown steps
  have hrefused : target.step (.call unknown []) =
      (.error (.unknownPlugin "functions/none"), target) := rfl
  have hsteps := failed_steps_leave_no_trace target
  exact ⟨hrefused, (hsteps.1 unknown [] _ _ hrefused).2.2, (hsteps.2 steps).2.1⟩

end TemplateCalls.RenderModule
