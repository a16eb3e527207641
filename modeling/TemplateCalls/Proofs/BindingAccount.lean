import TemplateCalls.Proofs.BindingPasses

/-!
# The account of a bound call

Where a call is bound, the bindings name every parameter once. A parameter that an argument names
has the value of that argument, the free parameters have the values of the arguments without a name
in order and then their defaults, and the variadic parameter has all the rest in the order of the
call. So every argument goes to exactly one place.
-/

namespace TemplateCalls.Plugin

variable {plugin : Plugin}

/-! ## Names -/

theorem names_completion {collected : List Argument} {parameters : List Parameter}
    (hgiven : ∀ parameter ∈ parameters, (parameter.omitted collected).isSome = true) :
    (completion collected parameters).names = parameters.map (·.name) := by
  induction parameters with
  | nil => rfl
  | cons parameter rest ih =>
    obtain ⟨hparameter, hrest⟩ := List.forall_mem_cons.mp hgiven
    obtain ⟨operand, homitted⟩ := Option.isSome_iff_exists.mp hparameter
    rw [completion, List.filterMap_cons_some (by rw [homitted]; rfl), List.map_cons, ← ih hrest]
    rfl

theorem names_reading {arguments : List Argument} (haccepts : plugin.Accepts arguments) :
    (plugin.reading arguments).names =
      (plugin.named arguments ++ plugin.filled arguments : Bindings).names
        ++ (plugin.remaining arguments).map (·.name) := by
  rw [reading, Bindings.names_append, names_completion haccepts.given]

/-- The parameters that remain are those that neither a name nor the order has bound. -/
theorem mem_remaining_iff {arguments : List Argument} {parameter : Parameter} :
    parameter ∈ plugin.remaining arguments ↔
      parameter ∈ plugin.parameters ∧
        parameter.name ∉ (plugin.named arguments ++ plugin.filled arguments : Bindings).names := by
  rw [remaining, List.mem_filter, Bool.not_eq_true', Bindings.contains_eq_false_iff]

/-- No parameter of a well-formed plugin is bound twice. -/
theorem nodup_names_reading (hplugin : plugin.IsWellFormed) {arguments : List Argument}
    (haccepts : plugin.Accepts arguments) : (plugin.reading arguments).names.Nodup := by
  have hfilled : (plugin.filled arguments).names.Nodup := by
    rw [filled, names_fill]
    exact (nodup_names_free hplugin arguments).sublist (List.take_sublist _ _)
  have hapart : ∀ name ∈ (plugin.named arguments).names,
      ∀ other ∈ (plugin.filled arguments).names, name ≠ other := by
    rintro name hname _ hother rfl
    rw [filled, names_fill] at hother
    obtain ⟨parameter, hparameter, rfl⟩ := List.mem_map.mp (List.mem_of_mem_take hother)
    exact unbound_of_mem_free hparameter hname
  have hremaining : ((plugin.remaining arguments).map (·.name)).Nodup :=
    hplugin.distinctNames.sublist (List.filter_sublist.map _)
  rw [names_reading haccepts]
  refine List.nodup_append.mpr ⟨?_, hremaining, ?_⟩
  · rw [Bindings.names_append]
    exact List.nodup_append.mpr ⟨haccepts.namedOnce, hfilled, hapart⟩
  · rintro name hname _ hother rfl
    obtain ⟨parameter, hparameter, rfl⟩ := List.mem_map.mp hother
    exact (mem_remaining_iff.mp hparameter).2 hname

theorem mem_names_reading_iff {arguments : List Argument} (haccepts : plugin.Accepts arguments)
    {name : String} :
    name ∈ (plugin.reading arguments).names ↔ name ∈ plugin.parameters.map (·.name) := by
  rw [names_reading haccepts, List.mem_append]
  constructor
  · rintro (hbound | hremaining)
    · obtain ⟨parameter, hparameter, rfl⟩ := mem_singleParameters_of_bound hbound
      exact List.mem_map_of_mem (List.mem_of_mem_filter hparameter)
    · obtain ⟨parameter, hparameter, rfl⟩ := List.mem_map.mp hremaining
      exact List.mem_map_of_mem (mem_remaining_iff.mp hparameter).1
  · intro hname
    obtain ⟨parameter, hparameter, rfl⟩ := List.mem_map.mp hname
    by_cases hbound : parameter.name ∈
        (plugin.named arguments ++ plugin.filled arguments : Bindings).names
    · exact .inl hbound
    · exact .inr (List.mem_map_of_mem (mem_remaining_iff.mpr ⟨hparameter, hbound⟩))

/-! ## Operands -/

/-- A parameter that an argument names is bound to the value of that argument. -/
theorem get?_reading_of_named (hplugin : plugin.IsWellFormed) {arguments : List Argument}
    (haccepts : plugin.Accepts arguments) {argument : Argument} (hargument : argument ∈ arguments)
    {name : String} (hname : plugin.namedParameter? argument = some name) :
    (plugin.reading arguments).get? name = some (.single argument.value) := by
  refine Bindings.get?_eq_some_of_mem (nodup_names_reading hplugin haccepts) ?_
  refine List.mem_append_left _ (List.mem_append_left _ ?_)
  exact List.mem_filterMap.mpr ⟨argument, hargument, by rw [hname]; rfl⟩

theorem get?_reading_of_remaining (hplugin : plugin.IsWellFormed) {arguments : List Argument}
    (haccepts : plugin.Accepts arguments) {parameter : Parameter}
    (hparameter : parameter ∈ plugin.remaining arguments) :
    (plugin.reading arguments).get? parameter.name =
      parameter.omitted (plugin.surplus arguments) := by
  obtain ⟨operand, homitted⟩ := Option.isSome_iff_exists.mp (haccepts.given parameter hparameter)
  rw [homitted]
  refine Bindings.get?_eq_some_of_mem (nodup_names_reading hplugin haccepts) ?_
  exact List.mem_append_right _ (List.mem_filterMap.mpr
    ⟨parameter, hparameter, by rw [homitted]; rfl⟩)

/-- The free parameter at a place takes the argument at that place, if there is one. -/
theorem get?_reading_of_free (hplugin : plugin.IsWellFormed) {arguments : List Argument}
    (haccepts : plugin.Accepts arguments) {place : Nat} {parameter : Parameter}
    (hparameter : (plugin.free arguments)[place]? = some parameter) :
    (plugin.reading arguments).get? parameter.name =
      (((arguments.filter isOrdered)[place]?.map (·.value)).or parameter.default).map .single := by
  have hmem := List.mem_of_getElem? hparameter
  cases hargument : (arguments.filter isOrdered)[place]? with
  | some argument =>
    refine Bindings.get?_eq_some_of_mem (nodup_names_reading hplugin haccepts) ?_
    refine List.mem_append_left _ (List.mem_append_right _ (List.mem_of_getElem? (i := place) ?_))
    rw [filled, fill, List.getElem?_zipWith, hparameter, hargument]
  | none =>
    have hsingle := mem_singleParameters_of_mem_free hmem
    have hremaining : parameter ∈ plugin.remaining arguments := by
      refine mem_remaining_iff.mpr ⟨List.mem_of_mem_filter hsingle, ?_⟩
      rw [Bindings.names_append, List.mem_append, not_or]
      refine ⟨unbound_of_mem_free hmem, ?_⟩
      rw [filled, names_fill]
      intro htake
      obtain ⟨other, hother, hname⟩ := List.mem_take_iff_getElem.mp htake
      obtain ⟨hplace, hget⟩ := List.getElem?_eq_some_iff.mp hparameter
      have hplace' : place < ((plugin.free arguments).map (·.name)).length := by
        rwa [List.length_map]
      have hsame : ((plugin.free arguments).map (·.name))[other] =
          ((plugin.free arguments).map (·.name))[place] := by
        rw [hname, List.getElem_map, hget]
      have heq := (nodup_names_free hplugin arguments).getElem_inj_iff.mp hsame
      have hnone := List.getElem?_eq_none_iff.mp hargument
      omega
    rw [get?_reading_of_remaining hplugin haccepts hremaining, Parameter.omitted,
      not_variadic_of_mem_singleParameters hsingle, Option.map_none, Option.none_or,
      if_neg Bool.false_ne_true]

/-! ## Arguments -/

/-- A call's arguments are those that name a parameter, those that fill one, and the surplus. -/
theorem perm_naming_filling_surplus (plugin : Plugin) (arguments : List Argument) :
    arguments.Perm (arguments.filter (fun argument ↦ (plugin.namedParameter? argument).isSome)
      ++ (arguments.filter isOrdered).take (plugin.free arguments).length
      ++ plugin.surplus arguments) := by
  have hsplit := (List.filter_append_perm
    (fun argument ↦ (plugin.namedParameter? argument).isSome) arguments).symm
  have hunnamed : arguments.filter (fun argument ↦ !(plugin.namedParameter? argument).isSome) =
      plugin.unnamed arguments := by
    simp only [unnamed, Option.not_isSome]
  have hleft := perm_take_filter_append_withoutFirst isOrdered (plugin.free arguments).length
    (plugin.unnamed arguments)
  rw [hunnamed] at hsplit
  rw [filter_isOrdered_unnamed, ← surplus_eq_withoutFirst] at hleft
  rw [List.append_assoc]
  exact hsplit.trans (hleft.append_left _)

/-- What a call gives to every parameter, and where every argument of the call goes. -/
structure Account (plugin : Plugin) (arguments : List Argument) (bindings : Bindings) : Prop where
  names : bindings.names.Perm (plugin.parameters.map (·.name))
  named : ∀ argument ∈ arguments, ∀ parameter ∈ plugin.parameters,
    argument.kind = .literal → argument.key = some parameter.name → parameter.variadic = false →
      bindings.get? parameter.name = some (.single argument.value)
  free : ∀ (place : Nat) (parameter : Parameter),
    (plugin.free arguments)[place]? = some parameter →
      bindings.get? parameter.name =
        (((arguments.filter isOrdered)[place]?.map (·.value)).or parameter.default).map .single
  variadic : ∀ parameter ∈ plugin.parameters, parameter.variadic = true →
    bindings.get? parameter.name = some (.rest ((plugin.surplus arguments).map .argument))
  order : bindings.names =
    arguments.filterMap plugin.namedParameter?
      ++ ((plugin.free arguments).map (·.name)).take (arguments.filter isOrdered).length
      ++ (plugin.remaining arguments).map (·.name)
  divided : arguments.Perm
    (arguments.filter (fun argument ↦ (plugin.namedParameter? argument).isSome)
      ++ (arguments.filter isOrdered).take (plugin.free arguments).length
      ++ plugin.surplus arguments)
  collected : plugin.surplus arguments = [] ∨
    ∃! parameter, parameter ∈ plugin.parameters ∧ parameter.variadic = true

/-- The reading of accepted arguments accounts for all of them. -/
theorem account_reading (hplugin : plugin.IsWellFormed) {arguments : List Argument}
    (haccepts : plugin.Accepts arguments) :
    plugin.Account arguments (plugin.reading arguments) where
  names := by
    refine (List.perm_ext_iff_of_nodup (nodup_names_reading hplugin haccepts)
      hplugin.distinctNames).mpr fun name ↦ ?_
    exact mem_names_reading_iff haccepts
  named argument hargument parameter hparameter hkind hkey hsingle := by
    refine get?_reading_of_named hplugin haccepts hargument (namedParameter?_eq_some_iff.mpr ?_)
    refine ⟨hkind, hkey, parameter, List.mem_filter.mpr ⟨hparameter, ?_⟩, rfl⟩
    rw [hsingle]
    rfl
  free place parameter hparameter := get?_reading_of_free hplugin haccepts hparameter
  variadic parameter hparameter hvariadic := by
    have hremaining := mem_remaining_iff.mpr
      ⟨hparameter, variadic_unbound hplugin arguments hparameter hvariadic⟩
    rw [get?_reading_of_remaining hplugin haccepts hremaining, Parameter.omitted, if_pos hvariadic]
  order := by
    rw [names_reading haccepts, Bindings.names_append, names_named, filled, names_fill]
  divided := perm_naming_filling_surplus plugin arguments
  collected := by
    refine haccepts.taken.symm.imp id fun hvariadic ↦ ?_
    obtain ⟨parameter, hparameter, h⟩ := List.any_eq_true.mp hvariadic
    have hone : (plugin.parameters.filter (·.variadic)).length = 1 :=
      le_antisymm hplugin.oneVariadic
        (List.length_pos_of_mem (List.mem_filter.mpr ⟨hparameter, h⟩))
    obtain ⟨only, honly⟩ := List.length_eq_one_iff.mp hone
    have hunique : ∀ other, other ∈ plugin.parameters ∧ other.variadic = true → other = only := by
      intro other hother
      have hmem := List.mem_filter.mpr hother
      rwa [honly, List.mem_singleton] at hmem
    exact ⟨parameter, ⟨hparameter, h⟩, fun other hother ↦
      (hunique other hother).trans (hunique parameter ⟨hparameter, h⟩).symm⟩

/-- Where a call is bound, every parameter has the operand that the call as a whole gives it, every
argument goes to one place, and the names stand in the order of the three passes. -/
theorem bind_accounts_for_all (hplugin : plugin.IsWellFormed) {entries : List Entry}
    {bindings : Bindings} (hbind : plugin.bind entries = .ok bindings) :
    ∃ arguments, Entry.toArguments entries = .ok arguments ∧ plugin.Account arguments bindings := by
  obtain ⟨arguments, harguments, hbound⟩ := Outcome.bind_eq_ok_iff.mp hbind
  obtain ⟨haccepts, rfl⟩ := (bindArguments_eq_ok_iff hplugin).mp hbound
  exact ⟨arguments, harguments, account_reading hplugin haccepts⟩

/-- A call with a parameter named out of order, more arguments than free parameters, and keys that
name nothing. -/
theorem bind_accounts_for_all_mixed :
    let plugin : Plugin := {
      name := "show", family := "test"
      parameters := [⟨"a", none, false⟩, ⟨"more", none, true⟩, ⟨"b", some "0", false⟩]
      generate := fun _ _ ↦ .ok "" }
    let entries : List Entry := [.pair (some "self.scope") "v", .pair none "w",
      .pair (some "a") "x", .pair (some "7") "y", .pair (some "more") "z"]
    let bindings : Bindings := [("a", .single "x"), ("b", .single "w"),
      ("more", .rest [.argument (.computed "self.scope" "v"), .argument (.index "7" "y"),
        .argument (.literal "more" "z")])]
    plugin.IsWellFormed ∧ plugin.bind entries = .ok bindings ∧
      ∃ arguments, Entry.toArguments entries = .ok arguments ∧
        plugin.Account arguments bindings := by
  intro plugin entries bindings
  have hplugin : plugin.IsWellFormed := ⟨by decide, by decide⟩
  have hbind : plugin.bind entries = .ok bindings := rfl
  exact ⟨hplugin, hbind, bind_accounts_for_all hplugin hbind⟩

end TemplateCalls.Plugin
