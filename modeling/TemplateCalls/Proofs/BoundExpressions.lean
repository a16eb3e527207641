import TemplateCalls.Proofs.NamedForm

/-!
# The expressions of bound calls

A call of a built-in plugin comes to the expression that can be made of its operands directly. A
literal is made of the entries of the call as they stand, and refused for what they are refused for,
whatever they are: binding turns them into arguments first, but keeps all of them in their order,
those with the name of the parameter, too. The other two plugins make their expression of two
sources, of what is bound to the value and of a second operand. Where a call does not give the
second operand, the source that is bound is the one that stands in for it in the expression.
-/

namespace TemplateCalls

namespace Bindings

variable {bindings : Bindings} {name source : String}

/-- What was bound first is found first. -/
theorem get?_append (first second : Bindings) (name : String) :
    Bindings.get? (first ++ second) name = (first.get? name).or (second.get? name) := by
  rw [get?, get?, get?, List.find?_append, Option.map_or]

theorem required_eq_ok (hget : bindings.get? name = some (.single source)) :
    bindings.required name = .ok source := by
  rw [required, hget]

theorem optional_eq_ok (hget : bindings.get? name = some (.single source)) (stand : String) :
    bindings.optional name stand = .ok source := by
  have hcontains : bindings.contains name = true := by
    rw [contains_eq_isSome_get?, hget, Option.isSome_some]
  rw [optional, if_pos hcontains, required_eq_ok hget]

end Bindings

namespace Plugin

variable {plugin : Plugin} {arguments : List Argument}

/-! ## Operands that a call gives -/

def given? (plugin : Plugin) (arguments : List Argument) (name : String) : Option String :=
  (plugin.named arguments ++ plugin.filled arguments : Bindings).source? name

/-- A parameter for one operand is bound to the source that the call gives, or else to its default.
-/
theorem get?_reading_of_default (hplugin : plugin.IsWellFormed)
    (haccepts : plugin.Accepts arguments) {parameter : Parameter}
    (hparameter : parameter ∈ plugin.singleParameters) {stand : String}
    (hdefault : parameter.default = some stand) :
    (plugin.reading arguments).get? parameter.name =
      some (.single ((plugin.given? arguments parameter.name).getD stand)) := by
  let given : Bindings := plugin.named arguments ++ plugin.filled arguments
  cases hgiven : given.get? parameter.name with
  | some operand =>
    obtain ⟨source, hsource⟩ := exists_source hplugin haccepts hparameter
    have hreading : (plugin.reading arguments).get? parameter.name = some operand := by
      rw [reading, Bindings.get?_append, hgiven, Option.some_or]
    have hsingle : given.get? parameter.name = some (.single source) := by
      rw [hgiven, ← hreading, hsource]
    have hgives : plugin.given? arguments parameter.name = some source :=
      Bindings.source?_eq_some hsingle
    rw [hsource, hgives, Option.getD_some]
  | none =>
    have hunbound : parameter.name ∉ given.names := by
      rw [← Bindings.contains_eq_false_iff, Bindings.contains_eq_isSome_get?, hgiven,
        Option.isSome_none]
    have hremaining : parameter ∈ plugin.remaining arguments :=
      mem_remaining_iff.mpr ⟨List.mem_of_mem_filter hparameter, hunbound⟩
    have hnothing : plugin.given? arguments parameter.name = none := by
      rw [given?, Bindings.source?, hgiven]
    rw [get?_reading_of_remaining hplugin haccepts hremaining, Parameter.omitted,
      not_variadic_of_mem_singleParameters hparameter, if_neg Bool.false_ne_true, hdefault,
      hnothing]
    rfl

/-! ## Expressions of two operands -/

/-- Every call of a plugin that is bound has an expression of two sources: of what is bound to the
value, and of what is bound to a second parameter. The latter is what the call gives, or else what
stands in for it. -/
def MakesExpression (plugin : Plugin) (second stand : String)
    (expression : Context → String → String → String) : Prop :=
  ∀ (context : Context) (reference : Reference) (entries : List Entry) (bindings : Bindings),
    reference.resolve = .ok plugin → plugin.bind entries = .ok bindings →
      ∃ (arguments : List Argument) (value operand : String),
        Entry.toArguments entries = .ok arguments ∧
        bindings.get? "value" = some (.single value) ∧
        bindings.get? second = some (.single operand) ∧
        operand = (plugin.given? arguments second).getD stand ∧
        compileCall context reference entries = .ok (expression context value operand)

/-- A plugin that requires a value and has a default for a second operand makes an expression of
both, if what stands in for the second operand is this default. -/
theorem makesExpression_of_parameters (hplugin : plugin.IsWellFormed) {value second : Parameter}
    (hvalue : value ∈ plugin.singleParameters) (hname : value.name = "value")
    (hsecond : second ∈ plugin.singleParameters) {stand : String}
    (hdefault : second.default = some stand) {expression : Context → String → String → String}
    (hgenerate : ∀ context bindings, plugin.generate context bindings = do
      let source ← bindings.required "value"
      let operand ← bindings.optional second.name stand
      return expression context source operand) :
    plugin.MakesExpression second.name stand expression := by
  intro context reference entries bindings hresolve hbind
  obtain ⟨arguments, harguments, hbound⟩ := Outcome.bind_eq_ok_iff.mp hbind
  obtain ⟨haccepts, rfl⟩ := (bindArguments_eq_ok_iff hplugin).mp hbound
  obtain ⟨source, hsource⟩ := exists_source hplugin haccepts hvalue
  rw [hname] at hsource
  have hoperand := get?_reading_of_default hplugin haccepts hsecond hdefault
  refine ⟨arguments, source, _, harguments, hsource, hoperand, rfl, ?_⟩
  rw [compileCall_of_resolve hresolve, hbind, Outcome.ok_bind, hgenerate,
    Bindings.required_eq_ok hsource, Outcome.ok_bind, Bindings.optional_eq_ok hoperand]
  rfl

/-- The fallback plugin writes the fallback expression of its two operands. -/
theorem makesExpression_fallback :
    fallback.MakesExpression "default" Expression.emptyText fun _ ↦ Expression.fallback := by
  have hvalue : (⟨"value", none, false⟩ : Parameter) ∈ fallback.singleParameters := by decide
  have hsecond : (⟨"default", some Expression.emptyText, false⟩ : Parameter) ∈
      fallback.singleParameters := by decide
  exact makesExpression_of_parameters ⟨by decide, by decide⟩ hvalue rfl hsecond rfl
    fun _ _ ↦ rfl

/-- The whitespace plugin writes the collapsing of its first operand with the second. -/
theorem makesExpression_whitespace :
    whitespace.MakesExpression "with" Expression.singleSpace Expression.collapseWhitespace := by
  have hvalue : (⟨"value", none, false⟩ : Parameter) ∈ whitespace.singleParameters := by decide
  have hsecond : (⟨"with", some Expression.singleSpace, false⟩ : Parameter) ∈
      whitespace.singleParameters := by decide
  exact makesExpression_of_parameters ⟨by decide, by decide⟩ hvalue rfl hsecond rfl
    fun _ _ ↦ rfl

/-! ## Calls and expressions -/

/-- A call of a literal is the literal of its entries or refused as they are; a bound call of
another built-in plugin is the expression of its two operands. -/
theorem calls_eq_expressions :
    (∀ (context : Context) (reference : Reference) (entries : List Entry),
      reference.resolve = .ok array →
        compileCall context reference entries = Expression.collection entries) ∧
    fallback.MakesExpression "default" Expression.emptyText (fun _ ↦ Expression.fallback) ∧
    whitespace.MakesExpression "with" Expression.singleSpace Expression.collapseWhitespace := by
  refine ⟨?_, makesExpression_fallback, makesExpression_whitespace⟩
  intro context reference entries hresolve
  exact compileCall_of_array hresolve context entries

/-- A literal with the name of its parameter as a key before an entry that is no argument; a second
operand that is given before the value; and one that is not given. -/
theorem calls_eq_expressions_mixed :
    let entries : List Entry := [.argument (.literal "rest" "a"), .argument (.index "07" "b"),
      .datum ⟨.tuple [.text "c"], rfl⟩]
    let given : List Entry := [.pair (some "default") "d", .argument (.index "3" "v")]
    let omitted : List Entry := [.pair (some "value") "v"]
    compileCall {} (.named "helpers/array") entries = Expression.collection entries ∧
      Expression.collection entries = .error (.malformed (.notAnArgument "('c',)")) ∧
      compileCall {} (.named "default") given = .ok (Expression.fallback "v" "d") ∧
      compileCall {} (.named "functions/whitespace") omitted =
        .ok (Expression.collapseWhitespace {} "v" "' '") := by
  intro entries given omitted
  obtain ⟨hcollection, hfallback, hwhitespace⟩ := calls_eq_expressions
  obtain ⟨_, _, _, hgiven, hvalue, hsecond, _, hcall⟩ :=
    hfallback {} (.named "default") given [("default", .single "d"), ("value", .single "v")] rfl rfl
  cases hgiven
  cases hvalue
  cases hsecond
  obtain ⟨_, _, _, homitted, hvalue, hsecond, _, hother⟩ :=
    hwhitespace {} (.named "functions/whitespace") omitted
      [("value", .single "v"), ("with", .single "' '")] rfl rfl
  cases homitted
  cases hvalue
  cases hsecond
  exact ⟨hcollection {} (.named "helpers/array") entries rfl, rfl, hcall, hother⟩

end Plugin

end TemplateCalls
