import TemplateCalls.Plugin.Registry
import TemplateCalls.Proofs.BindingPasses
import TemplateCalls.Proofs.SelfContainedCode

/-!
# Calls of built-in plugins

What a call is bound to comes from its arguments or is a default. So the expression of a call of a
built-in plugin is self-contained if its arguments are.
-/

namespace TemplateCalls

namespace Plugin

variable {plugin : Plugin}

/-! ## Where operands come from -/

theorem exists_argument_of_mem_fill {free : List Parameter} {ordered : List Argument}
    {name : String} {operand : Operand} (hmem : (name, operand) ∈ fill free ordered) :
    ∃ argument ∈ ordered, operand = .single argument.value := by
  induction free generalizing ordered with
  | nil => simp [fill] at hmem
  | cons parameter free ih =>
    cases ordered with
    | nil => simp [fill] at hmem
    | cons argument ordered =>
      rw [fill_cons, List.mem_cons] at hmem
      rcases hmem with heq | hrest
      · exact ⟨argument, List.mem_cons_self, congrArg Prod.snd heq⟩
      · obtain ⟨other, hother, hoperand⟩ := ih hrest
        exact ⟨other, List.mem_cons_of_mem argument hother, hoperand⟩

theorem mem_of_mem_surplus {arguments : List Argument} {argument : Argument}
    (hmem : argument ∈ plugin.surplus arguments) : argument ∈ arguments := by
  obtain ⟨⟨_, place⟩, hplaced, rfl⟩ := List.mem_map.mp hmem
  exact List.fst_mem_of_mem_zipIdx (List.mem_of_mem_filter hplaced)

/-- An operand is the value of an argument, a default, or the list of what is left over. -/
theorem operand_of_mem_reading {arguments : List Argument} {name : String} {operand : Operand}
    (hmem : (name, operand) ∈ plugin.reading arguments) :
    (∃ argument ∈ arguments, operand = .single argument.value) ∨
      (∃ parameter ∈ plugin.parameters, ∃ source, parameter.default = some source ∧
        operand = .single source) ∨
      (plugin.isVariadic = true ∧ operand = .rest ((plugin.surplus arguments).map .argument)) := by
  rcases List.mem_append.mp hmem with hbound | hcompletion
  · rcases List.mem_append.mp hbound with hnamed | hfilled
    · obtain ⟨argument, hargument, hmap⟩ := List.mem_filterMap.mp hnamed
      obtain ⟨_, _, heq⟩ := Option.map_eq_some_iff.mp hmap
      exact .inl ⟨argument, hargument, (congrArg Prod.snd heq).symm⟩
    · obtain ⟨argument, hargument, hoperand⟩ := exists_argument_of_mem_fill hfilled
      exact .inl ⟨argument, List.mem_of_mem_filter hargument, hoperand⟩
  · obtain ⟨parameter, hparameter, hmap⟩ := List.mem_filterMap.mp hcompletion
    obtain ⟨omitted, homitted, heq⟩ := Option.map_eq_some_iff.mp hmap
    have hdeclared : parameter ∈ plugin.parameters := List.mem_of_mem_filter hparameter
    obtain rfl : omitted = operand := congrArg Prod.snd heq
    unfold Parameter.omitted at homitted
    split at homitted
    · next hvariadic =>
      cases homitted
      exact .inr (.inr ⟨List.any_eq_true.mpr ⟨parameter, hdeclared, hvariadic⟩, rfl⟩)
    · obtain ⟨source, hsource, rfl⟩ := Option.map_eq_some_iff.mp homitted
      exact .inr (.inl ⟨parameter, hdeclared, source, hsource, rfl⟩)

end Plugin

namespace Bindings

theorem mem_of_get?_eq_some {bindings : Bindings} {name : String} {operand : Operand}
    (hget : bindings.get? name = some operand) : (name, operand) ∈ bindings := by
  obtain ⟨⟨other, _⟩, hfind, rfl⟩ := Option.map_eq_some_iff.mp hget
  have hname : other = name := by simpa using List.find?_some hfind
  rw [← hname]
  exact List.mem_of_find?_eq_some hfind

end Bindings

/-- What holds of all values and defaults holds of every source that is bound. -/
theorem Plugin.holds_of_get? {plugin : Plugin} {arguments : List Argument} {Holds : String → Prop}
    (hvalues : ∀ argument ∈ arguments, Holds argument.value)
    (hdefaults : ∀ parameter ∈ plugin.parameters, ∀ source ∈ parameter.default, Holds source)
    {name source : String} (hget : (plugin.reading arguments).get? name = some (.single source)) :
    Holds source := by
  rcases operand_of_mem_reading (Bindings.mem_of_get?_eq_some hget) with
    ⟨argument, hargument, heq⟩ | ⟨parameter, hparameter, default, hdefault, heq⟩ | ⟨_, heq⟩
  · cases heq
    exact hvalues argument hargument
  · cases heq
    exact hdefaults parameter hparameter _ hdefault
  · cases heq

/-! ## Self-contained operands -/

def Operand.IsSelfContained : Operand → Prop
  | .single source => isSelfContained source = true
  | .rest entries => ∀ argument ∈ entries.filterMap Entry.argument?, argument.IsSelfContained

namespace Plugin

variable {plugin : Plugin}

section operands

variable {arguments : List Argument}
  (harguments : ∀ argument ∈ arguments, argument.IsSelfContained)
  (hdefaults : ∀ parameter ∈ plugin.parameters, parameter.default.all isSelfContained = true)

include harguments hdefaults

theorem isSelfContained_of_mem_reading {name : String} {operand : Operand}
    (hmem : (name, operand) ∈ plugin.reading arguments) : operand.IsSelfContained := by
  rcases operand_of_mem_reading hmem with hargument | hdefault | ⟨_, rfl⟩
  · obtain ⟨argument, hargument, rfl⟩ := hargument
    exact (harguments argument hargument).value
  · obtain ⟨parameter, hparameter, source, hsource, rfl⟩ := hdefault
    have hall := hdefaults parameter hparameter
    rw [hsource, Option.all_some] at hall
    exact hall
  · intro argument hargument
    rw [List.filterMap_map] at hargument
    obtain ⟨other, hother, heq⟩ := List.mem_filterMap.mp hargument
    cases heq
    exact harguments argument (mem_of_mem_surplus hother)

/-- Without a variadic parameter, whatever is bound is one self-contained expression. -/
theorem isSelfContained_of_required {name source : String} (hsingle : plugin.isVariadic = false)
    (hsource : (plugin.reading arguments).required name = .ok source) :
    isSelfContained source = true := by
  unfold Bindings.required at hsource
  split at hsource
  · next hget =>
    cases hsource
    exact isSelfContained_of_mem_reading harguments hdefaults (Bindings.mem_of_get?_eq_some hget)
  · next hget =>
    rcases operand_of_mem_reading (Bindings.mem_of_get?_eq_some hget) with
      ⟨_, _, heq⟩ | ⟨_, _, _, _, heq⟩ | ⟨hvariadic, _⟩
    · cases heq
    · cases heq
    · rw [hsingle] at hvariadic
      cases hvariadic
  · cases hsource

theorem isSelfContained_of_optional {name stand source : String}
    (hsingle : plugin.isVariadic = false) (hstand : isSelfContained stand = true)
    (hsource : (plugin.reading arguments).optional name stand = .ok source) :
    isSelfContained source = true := by
  unfold Bindings.optional at hsource
  split at hsource
  · exact isSelfContained_of_required harguments hdefaults hsingle hsource
  · cases hsource
    exact hstand

end operands

/-! ## The built-in plugins -/

theorem isWellFormed_of_mem_registry (hplugin : plugin ∈ registry) : plugin.IsWellFormed := by
  simp only [registry, List.mem_cons, List.not_mem_nil, or_false] at hplugin
  rcases hplugin with rfl | rfl | rfl <;> exact ⟨by decide, by decide⟩

/-- The built-in plugins write self-contained code from self-contained arguments. -/
theorem isSelfContained_of_generate {context : Context} {arguments : List Argument} {code : String}
    (hplugin : plugin ∈ registry)
    (harguments : ∀ argument ∈ arguments, argument.IsSelfContained)
    (hcode : plugin.generate context (plugin.reading arguments) = .ok code) :
    isSelfContained code = true := by
  simp only [registry, List.mem_cons, List.not_mem_nil, or_false] at hplugin
  rcases hplugin with rfl | rfl | rfl
  · obtain ⟨value, hvalue, hrest⟩ := Outcome.bind_eq_ok_iff.mp hcode
    obtain ⟨replacement, hreplacement, hresult⟩ := Outcome.bind_eq_ok_iff.mp hrest
    cases hresult
    exact Expression.isSelfContained_fallback
      (isSelfContained_of_required harguments (by decide) rfl hvalue)
      (isSelfContained_of_optional harguments (by decide) rfl (by decide) hreplacement)
  · obtain ⟨value, hvalue, hrest⟩ := Outcome.bind_eq_ok_iff.mp hcode
    obtain ⟨replacement, hreplacement, hresult⟩ := Outcome.bind_eq_ok_iff.mp hrest
    cases hresult
    exact Expression.isSelfContained_collapseWhitespace context
      (isSelfContained_of_required harguments (by decide) rfl hvalue)
      (isSelfContained_of_optional harguments (by decide) rfl (by decide) hreplacement)
  · unfold array at hcode
    dsimp only at hcode
    split at hcode
    · next hget =>
      have hoperand := isSelfContained_of_mem_reading harguments (by decide)
        (Bindings.mem_of_get?_eq_some hget)
      exact Expression.isSelfContained_of_collection hoperand hcode
    · refine Expression.isSelfContained_of_collection ?_ hcode
      intro argument hargument
      rw [List.filterMap_map] at hargument
      obtain ⟨_, _, hnone⟩ := List.mem_filterMap.mp hargument
      cases hnone
    · refine Expression.isSelfContained_of_collection ?_ hcode
      simp

theorem isSelfContained_of_compile {context : Context} {entries : List Entry} {code : String}
    (hplugin : plugin ∈ registry)
    (hentries : ∀ argument ∈ entries.filterMap Entry.argument?, argument.IsSelfContained)
    (hcode : plugin.compile context entries = .ok code) : isSelfContained code = true := by
  obtain ⟨bindings, hbind, hgenerate⟩ := Outcome.bind_eq_ok_iff.mp hcode
  obtain ⟨arguments, harguments, hbound⟩ := Outcome.bind_eq_ok_iff.mp hbind
  obtain ⟨_, rfl⟩ := (bindArguments_eq_ok_iff (isWellFormed_of_mem_registry hplugin)).mp hbound
  rw [Entry.toArguments_eq] at harguments
  split at harguments
  · cases harguments
  · cases harguments
    exact isSelfContained_of_generate hplugin hentries hgenerate

end Plugin

end TemplateCalls
