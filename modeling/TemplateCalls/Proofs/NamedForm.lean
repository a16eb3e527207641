import TemplateCalls.Proofs.BindingAccount
import TemplateCalls.Proofs.RearrangedCalls

/-!
# Calls that name all parameters

What a call is bound to can be given by name: every parameter for one operand by a literal argument,
in any order, and then the arguments that the variadic parameter collected. Such a call is bound,
too, and to the same operands. For once all parameters are named, none is free to be filled, and
what was left over of the first call names none of them.
-/

namespace TemplateCalls

namespace Bindings

def source? (bindings : Bindings) (name : String) : Option String :=
  match bindings.get? name with
  | some (.single source) => some source
  | _ => none

/-- The entries that are bound to a name; there are none if it is bound to one source. -/
def collected (bindings : Bindings) (name : String) : List Entry :=
  match bindings.get? name with
  | some (.rest entries) => entries
  | _ => []

/-- The literal arguments that give parameters what they are bound to. -/
def asLiterals? (bindings : Bindings) (parameters : List Parameter) : Option (List Argument) :=
  parameters.mapM fun parameter ↦
    (bindings.source? parameter.name).map (Argument.literal parameter.name)

theorem source?_eq_some {bindings : Bindings} {name source : String}
    (hget : bindings.get? name = some (.single source)) : bindings.source? name = some source := by
  rw [source?, hget]

theorem collected_eq {bindings : Bindings} {name : String} {entries : List Entry}
    (hget : bindings.get? name = some (.rest entries)) : bindings.collected name = entries := by
  rw [collected, hget]

end Bindings

namespace Plugin

/-- What the variadic parameters of a plugin are bound to. -/
def collected (plugin : Plugin) (bindings : Bindings) : List Entry :=
  (plugin.parameters.filter (·.variadic)).flatMap fun parameter ↦ bindings.collected parameter.name

variable {plugin : Plugin}

/-! ## A call that names all parameters -/

/-- Arguments that name parameters, and others behind them. -/
def namingCall (source : Parameter → String) (order : List Parameter) (others : List Argument) :
    List Argument :=
  order.map (fun parameter ↦ .literal parameter.name (source parameter)) ++ others

section namingCall

variable (source : Parameter → String) {order : List Parameter} {others : List Argument}
  (horder : order.Perm plugin.singleParameters)
  (hothers : ∀ argument ∈ others, plugin.namedParameter? argument = none)

include horder

theorem namedParameter?_literal {parameter : Parameter} (hparameter : parameter ∈ order) :
    plugin.namedParameter? (.literal parameter.name (source parameter)) = some parameter.name :=
  namedParameter?_eq_some_iff.mpr
    ⟨rfl, rfl, parameter, horder.mem_iff.mp hparameter, rfl⟩

include hothers

theorem named_namingCall :
    plugin.named (namingCall source order others) =
      order.map fun parameter ↦ (parameter.name, .single (source parameter)) := by
  have hnaming : plugin.named (order.map fun parameter ↦
      .literal parameter.name (source parameter)) =
        order.map fun parameter ↦ (parameter.name, .single (source parameter)) := by
    rw [named, List.filterMap_map, ← List.filterMap_eq_map]
    apply List.filterMap_congr
    intro parameter hparameter
    rw [Function.comp_apply, namedParameter?_literal source horder hparameter]
    rfl
  have hleft : plugin.named others = [] := by
    apply List.filterMap_eq_nil_iff.mpr
    intro argument hargument
    rw [hothers argument hargument]
    rfl
  rw [namingCall, named, List.filterMap_append, ← named, ← named, hnaming, hleft, List.append_nil]

theorem unnamed_namingCall : plugin.unnamed (namingCall source order others) = others := by
  have hnaming : plugin.unnamed (order.map fun parameter ↦
      .literal parameter.name (source parameter)) = [] := by
    apply List.filter_eq_nil_iff.mpr
    intro argument hargument
    obtain ⟨parameter, hparameter, rfl⟩ := List.mem_map.mp hargument
    rw [namedParameter?_literal source horder hparameter]
    exact Bool.false_ne_true
  have hleft : plugin.unnamed others = others := by
    apply List.filter_eq_self.mpr
    intro argument hargument
    rw [hothers argument hargument]
    rfl
  rw [namingCall, unnamed, List.filter_append, ← unnamed, ← unnamed, hnaming, hleft,
    List.nil_append]

theorem names_named_namingCall :
    (plugin.named (namingCall source order others)).names = order.map (·.name) := by
  rw [named_namingCall source horder hothers, Bindings.names, List.map_map]
  rfl

theorem free_namingCall : plugin.free (namingCall source order others) = [] := by
  apply List.filter_eq_nil_iff.mpr
  intro parameter hparameter
  have hbound : parameter.name ∈ (plugin.named (namingCall source order others)).names := by
    rw [names_named_namingCall source horder hothers]
    exact List.mem_map_of_mem (horder.mem_iff.mpr hparameter)
  rw [Bindings.contains_iff.mpr hbound]
  exact Bool.false_ne_true

/-- With no parameter free to be filled, all the other arguments are left over. -/
theorem surplus_namingCall : plugin.surplus (namingCall source order others) = others := by
  rw [surplus_eq_withoutFirst, free_namingCall source horder hothers, List.length_nil,
    withoutFirst_zero, unnamed_namingCall source horder hothers]

theorem variadic_of_mem_remaining {parameter : Parameter}
    (hparameter : parameter ∈ plugin.remaining (namingCall source order others)) :
    parameter.variadic = true := by
  obtain ⟨hdeclared, hunbound⟩ := mem_remaining_iff.mp hparameter
  by_contra hsingle
  apply hunbound
  rw [Bindings.names_append, names_named_namingCall source horder hothers]
  apply List.mem_append_left
  have hmem : parameter ∈ plugin.singleParameters :=
    List.mem_filter.mpr ⟨hdeclared, by rw [Bool.eq_false_iff.mpr hsingle]; rfl⟩
  exact List.mem_map_of_mem (horder.mem_iff.mpr hmem)

/-- A call that names every parameter is accepted, in any order. -/
theorem accepts_namingCall (hplugin : plugin.IsWellFormed)
    (htaken : plugin.isVariadic = true ∨ others = []) :
    plugin.Accepts (namingCall source order others) where
  namedOnce := by
    rw [names_named_namingCall source horder hothers, (horder.map _).nodup_iff]
    exact distinct_singleParameters hplugin
  taken := by rwa [surplus_namingCall source horder hothers]
  given parameter hparameter := by
    rw [Parameter.omitted, if_pos (variadic_of_mem_remaining source horder hothers hparameter)]
    rfl

end namingCall

/-! ## What a bound call gives by name -/

variable {arguments : List Argument}

/-- No argument that is left over names a parameter. -/
theorem surplus_names_nothing {argument : Argument}
    (hargument : argument ∈ plugin.surplus arguments) : plugin.namedParameter? argument = none := by
  obtain ⟨⟨_, _⟩, hplaced, rfl⟩ := List.mem_map.mp hargument
  have hkept := (List.mem_filter.mp hplaced).2
  rw [Bool.and_eq_true, Option.isNone_iff_eq_none] at hkept
  exact hkept.1

/-- In an accepted call every parameter has an operand. -/
theorem exists_get?_reading (haccepts : plugin.Accepts arguments) {parameter : Parameter}
    (hparameter : parameter ∈ plugin.parameters) :
    ∃ operand, (plugin.reading arguments).get? parameter.name = some operand := by
  have hname : parameter.name ∈ (plugin.reading arguments).names :=
    (mem_names_reading_iff haccepts).mpr (List.mem_map_of_mem hparameter)
  rw [← Option.isSome_iff_exists, ← Bindings.contains_eq_isSome_get?]
  exact Bindings.contains_iff.mpr hname

/-- A parameter for one operand is bound to one source. -/
theorem exists_source (hplugin : plugin.IsWellFormed) (haccepts : plugin.Accepts arguments)
    {parameter : Parameter} (hparameter : parameter ∈ plugin.singleParameters) :
    ∃ source, (plugin.reading arguments).get? parameter.name = some (.single source) := by
  by_cases hnamed : parameter.name ∈ (plugin.named arguments).names
  · obtain ⟨argument, hargument, hname⟩ := mem_names_named_iff.mp hnamed
    exact ⟨argument.value, get?_reading_of_named hplugin haccepts hargument hname⟩
  · have hfree : parameter ∈ plugin.free arguments :=
      List.mem_filter.mpr ⟨hparameter, by rw [Bindings.contains_eq_false_iff.mpr hnamed]; rfl⟩
    obtain ⟨place, hplace⟩ := List.mem_iff_getElem?.mp hfree
    have hget := get?_reading_of_free hplugin haccepts hplace
    obtain ⟨operand, hoperand⟩ :=
      exists_get?_reading haccepts (List.mem_of_mem_filter hparameter)
    obtain ⟨source, _, rfl⟩ := Option.map_eq_some_iff.mp (hget.symm.trans hoperand)
    exact ⟨source, hoperand⟩

/-- A variadic parameter is bound to all that is left over. -/
theorem get?_reading_of_variadic (hplugin : plugin.IsWellFormed)
    (haccepts : plugin.Accepts arguments) {parameter : Parameter}
    (hparameter : parameter ∈ plugin.parameters) (hvariadic : parameter.variadic = true) :
    (plugin.reading arguments).get? parameter.name =
      some (.rest ((plugin.surplus arguments).map .argument)) :=
  (account_reading hplugin haccepts).variadic parameter hparameter hvariadic

/-- What is left over of a bound call is what its variadic parameter is bound to. -/
theorem collected_reading (hplugin : plugin.IsWellFormed) (haccepts : plugin.Accepts arguments) :
    plugin.collected (plugin.reading arguments) = (plugin.surplus arguments).map .argument := by
  have hcollected : ∀ parameter ∈ plugin.parameters.filter (·.variadic),
      (plugin.reading arguments).collected parameter.name =
        (plugin.surplus arguments).map .argument := by
    intro parameter hparameter
    obtain ⟨hdeclared, hvariadic⟩ := List.mem_filter.mp hparameter
    exact Bindings.collected_eq (get?_reading_of_variadic hplugin haccepts hdeclared hvariadic)
  rw [collected]
  cases hvariadic : plugin.parameters.filter (·.variadic) with
  | nil =>
    have hnone : plugin.isVariadic = false :=
      List.any_eq_false.mpr (List.filter_eq_nil_iff.mp hvariadic)
    have hsurplus : plugin.surplus arguments = [] := by
      refine haccepts.taken.resolve_left ?_
      rw [hnone]
      exact Bool.false_ne_true
    rw [hsurplus]
    rfl
  | cons parameter rest =>
    have hone := hplugin.oneVariadic
    rw [hvariadic, List.length_cons] at hone
    obtain rfl : rest = [] := List.length_eq_zero_iff.mp (by omega)
    rw [List.flatMap_singleton]
    exact hcollected parameter (by rw [hvariadic]; exact List.mem_cons_self)

/-- Two accepted calls agree if every parameter has the same operand in both. -/
theorem agree_of_parameters {others : List Argument} (haccepts : plugin.Accepts arguments)
    (hothers : plugin.Accepts others)
    (hsame : ∀ parameter ∈ plugin.parameters, (plugin.reading arguments).get? parameter.name =
      (plugin.reading others).get? parameter.name) :
    (plugin.reading arguments).Agree (plugin.reading others) := by
  intro name
  by_cases hname : name ∈ plugin.parameters.map (·.name)
  · obtain ⟨parameter, hparameter, rfl⟩ := List.mem_map.mp hname
    exact hsame parameter hparameter
  · have hnone : ∀ {call : List Argument}, plugin.Accepts call →
        (plugin.reading call).get? name = none := by
      intro call hcall
      rw [← Option.not_isSome_iff_eq_none, ← Bindings.contains_eq_isSome_get?, Bool.not_eq_true,
        Bindings.contains_eq_false_iff, mem_names_reading_iff hcall]
      exact hname
    rw [hnone haccepts, hnone hothers]

/-! ## The call by name -/

theorem asLiterals?_eq_some {bindings : Bindings} {source : Parameter → String}
    {order : List Parameter} (hsource : ∀ parameter ∈ order,
      bindings.get? parameter.name = some (.single (source parameter))) :
    bindings.asLiterals? order =
      some (order.map fun parameter ↦ .literal parameter.name (source parameter)) := by
  unfold Bindings.asLiterals?
  induction order with
  | nil => rfl
  | cons parameter rest ih =>
    obtain ⟨hparameter, hrest⟩ := List.forall_mem_cons.mp hsource
    rw [List.mapM_cons, Bindings.source?_eq_some hparameter, ih hrest]
    rfl

/-- Giving all parameters by name, and what was left over behind them, is bound to the same. -/
theorem agree_namingCall (hplugin : plugin.IsWellFormed) (haccepts : plugin.Accepts arguments)
    {order : List Parameter} (horder : order.Perm plugin.singleParameters)
    {source : Parameter → String} (hsource : ∀ parameter ∈ order,
      (plugin.reading arguments).get? parameter.name = some (.single (source parameter))) :
    plugin.Accepts (namingCall source order (plugin.surplus arguments)) ∧
      (plugin.reading (namingCall source order (plugin.surplus arguments))).Agree
        (plugin.reading arguments) := by
  have hothers : ∀ argument ∈ plugin.surplus arguments, plugin.namedParameter? argument = none :=
    fun _ ↦ surplus_names_nothing
  have hagain := accepts_namingCall source horder hothers hplugin haccepts.taken
  refine ⟨hagain, agree_of_parameters hagain haccepts ?_⟩
  intro parameter hparameter
  cases hvariadic : parameter.variadic with
  | true =>
    rw [get?_reading_of_variadic hplugin hagain hparameter hvariadic,
      get?_reading_of_variadic hplugin haccepts hparameter hvariadic,
      surplus_namingCall source horder hothers]
  | false =>
    have hmem : parameter ∈ order :=
      horder.mem_iff.mpr (List.mem_filter.mpr ⟨hparameter, by rw [hvariadic]; rfl⟩)
    have hgiven : Argument.literal parameter.name (source parameter) ∈
        namingCall source order (plugin.surplus arguments) :=
      List.mem_append_left _ (List.mem_map.mpr ⟨parameter, hmem, rfl⟩)
    rw [hsource parameter hmem, get?_reading_of_named hplugin hagain hgiven
      (namedParameter?_literal source horder hmem)]
    rfl

/-- Where a call is bound, the call that gives all parameters by name, in whatever order, and then
what the variadic parameter collected, is bound to the same. A built-in plugin makes the same
expression of both, if it makes one. -/
theorem bind_fully_named (hplugin : plugin.IsWellFormed) {entries : List Entry}
    {bindings : Bindings} (hbind : plugin.bind entries = .ok bindings) {order : List Parameter}
    (horder : order.Perm plugin.singleParameters) :
    ∃ (literals : List Argument) (again : Bindings),
      bindings.asLiterals? order = some literals ∧
      plugin.bind (literals.map .argument ++ plugin.collected bindings) = .ok again ∧
      again.Agree bindings ∧
      (plugin ∈ registry → ∀ (context : Context) (reference : Reference),
        reference.resolve = .ok plugin →
          compileCall context reference (literals.map .argument ++ plugin.collected bindings) =
            compileCall context reference entries) := by
  obtain ⟨arguments, _, hbound⟩ := Outcome.bind_eq_ok_iff.mp hbind
  obtain ⟨haccepts, rfl⟩ := (bindArguments_eq_ok_iff hplugin).mp hbound
  let source := fun parameter : Parameter ↦
    ((plugin.reading arguments).source? parameter.name).getD ""
  have hsource : ∀ parameter ∈ order,
      (plugin.reading arguments).get? parameter.name = some (.single (source parameter)) := by
    intro parameter hparameter
    obtain ⟨text, htext⟩ := exists_source hplugin haccepts (horder.mem_iff.mp hparameter)
    rw [htext]
    simp only [source, Bindings.source?_eq_some htext, Option.getD_some]
  obtain ⟨hagain, hagree⟩ := agree_namingCall hplugin haccepts horder hsource
  let call := namingCall source order (plugin.surplus arguments)
  have hcall : (order.map fun parameter ↦
      Argument.literal parameter.name (source parameter)).map Entry.argument ++
        plugin.collected (plugin.reading arguments) = call.map .argument := by
    rw [collected_reading hplugin haccepts, ← List.map_append]
    rfl
  have hrebound : plugin.bind (call.map .argument) = .ok (plugin.reading call) := by
    rw [bind, Entry.toArguments_map_argument, Outcome.ok_bind]
    exact (bindArguments_eq_ok_iff hplugin).mpr ⟨hagain, rfl⟩
  refine ⟨_, plugin.reading call, asLiterals?_eq_some hsource, ?_, hagree, ?_⟩
  · rw [hcall, hrebound]
  · intro hmem context reference hresolve
    rw [hcall, compileCall_of_resolve hresolve, compileCall_of_resolve hresolve, hrebound, hbind]
    exact generate_congr hmem hagree context

/-- Parameters that are named, filled and left to their defaults, and a variadic one that collects
arguments with and without keys; and a call of a built-in plugin. -/
theorem bind_fully_named_mixed :
    let plugin : Plugin := {
      name := "show", family := "test"
      parameters := [⟨"a", none, false⟩, ⟨"more", none, true⟩, ⟨"b", some "0", false⟩,
        ⟨"c", none, false⟩]
      generate := fun _ _ ↦ .ok "" }
    let entries : List Entry := [.pair (some "more") "u", .pair (some "c") "v", .pair none "w",
      .pair (some "7") "x", .pair none "y"]
    let bindings : Bindings := [("c", .single "v"), ("a", .single "w"), ("b", .single "x"),
      ("more", .rest [.argument (.literal "more" "u"), .argument (.positional "y")])]
    let order : List Parameter := [⟨"b", some "0", false⟩, ⟨"a", none, false⟩, ⟨"c", none, false⟩]
    let defaulted : Bindings := [("value", .single "z"), ("default", .single "''")]
    plugin.IsWellFormed ∧ plugin.bind entries = .ok bindings ∧
      order.Perm plugin.singleParameters ∧
      (∃ again, plugin.bind [.argument (.literal "b" "x"), .argument (.literal "a" "w"),
        .argument (.literal "c" "v"), .argument (.literal "more" "u"),
        .argument (.positional "y")] = .ok again ∧ again.Agree bindings) ∧
      fallback.bind [.pair none "z"] = .ok defaulted ∧
      compileCall {} (.named "default") [.argument (.literal "value" "z"),
        .argument (.literal "default" "''")] =
          compileCall {} (.named "default") [.pair none "z"] := by
  intro plugin entries bindings order defaulted
  have hplugin : plugin.IsWellFormed := ⟨by decide, by decide⟩
  have hbind : plugin.bind entries = .ok bindings := rfl
  have horder : order.Perm plugin.singleParameters := .swap ..
  have hfallback : fallback.IsWellFormed := ⟨by decide, by decide⟩
  have hdefaulted : fallback.bind [.pair none "z"] = .ok defaulted := rfl
  obtain ⟨_, again, hliterals, hagain, hagree, _⟩ := bind_fully_named hplugin hbind horder
  obtain ⟨_, _, hboth, _, _, hcompile⟩ := bind_fully_named hfallback hdefaulted (.refl _)
  cases hliterals
  cases hboth
  exact ⟨hplugin, hbind, horder, ⟨again, hagain, hagree⟩, hdefaulted,
    hcompile (by simp [registry]) {} (.named "default") rfl⟩

end Plugin

end TemplateCalls
