import TemplateCalls.Proofs.CallFaults

/-!
# The places of arguments that name parameters

It does not matter where in a call the arguments stand that name a parameter, as long as the other
arguments keep their order. A call and its rearrangement are both bound or both refused; where they
are bound every parameter has the same operand, and so a built-in plugin gives the same expression.

What they are refused for is the same, too, unless two parameters are each named more than once.
Then each call is refused for the one that it repeats first.
-/

namespace TemplateCalls

/-! ## Bindings that agree -/

namespace Bindings

variable {bindings others : Bindings}

/-- Every name is bound to the same operand, if it is bound. -/
def Agree (bindings others : Bindings) : Prop := ∀ name, bindings.get? name = others.get? name

theorem get?_eq_some_iff (hnodup : bindings.names.Nodup) {name : String} {operand : Operand} :
    bindings.get? name = some operand ↔ (name, operand) ∈ bindings :=
  ⟨mem_of_get?_eq_some, get?_eq_some_of_mem hnodup⟩

/-- The order of binding does not matter where no name is bound twice. -/
theorem agree_of_perm (hnodup : bindings.names.Nodup) (hperm : bindings.Perm others) :
    bindings.Agree others := by
  intro name
  have hothers : others.names.Nodup := (hperm.map Prod.fst).nodup_iff.mp hnodup
  apply Option.ext
  intro operand
  rw [get?_eq_some_iff hnodup, get?_eq_some_iff hothers, hperm.mem_iff]

theorem contains_eq_isSome_get? (bindings : Bindings) (name : String) :
    bindings.contains name = (bindings.get? name).isSome := by
  rw [contains, get?, Option.isSome_map, List.isSome_find?]

/-- Operands that are required are the same in bindings that agree. -/
theorem Agree.required (hagree : bindings.Agree others) (name : String) :
    bindings.required name = others.required name := by
  rw [Bindings.required, Bindings.required, hagree name]

theorem Agree.optional (hagree : bindings.Agree others) (name stand : String) :
    bindings.optional name stand = others.optional name stand := by
  rw [Bindings.optional, Bindings.optional, contains_eq_isSome_get?, contains_eq_isSome_get?,
    hagree name, hagree.required name]

end Bindings

namespace Plugin

/-- A built-in plugin looks its operands up by their names. -/
theorem generate_congr {plugin : Plugin} (hplugin : plugin ∈ registry) {bindings others : Bindings}
    (hagree : bindings.Agree others) (context : Context) :
    plugin.generate context bindings = plugin.generate context others := by
  simp only [registry, List.mem_cons, List.not_mem_nil, or_false] at hplugin
  rcases hplugin with rfl | rfl | rfl
  · simp only [fallback, hagree.required, hagree.optional]
  · simp only [whitespace, hagree.required, hagree.optional]
  · simp only [array, hagree "rest"]

theorem compileCall_of_resolve {plugin : Plugin} {reference : Reference}
    (hresolve : reference.resolve = .ok plugin) (context : Context) (entries : List Entry) :
    compileCall context reference entries = plugin.bind entries >>= plugin.generate context := by
  rw [compileCall, hresolve, Outcome.ok_bind]
  rfl

/-! ## Arguments in another order -/

/-- Arguments in another order, in which those that name no parameter keep theirs. -/
structure RearrangesArguments (plugin : Plugin) (arguments others : List Argument) : Prop where
  perm : arguments.Perm others
  unnamed : plugin.unnamed arguments = plugin.unnamed others

def IsNamedTwice (plugin : Plugin) (arguments : List Argument) (name : String) : Prop :=
  2 ≤ arguments.countP fun argument ↦ plugin.namedParameter? argument == some name

variable {plugin : Plugin}

namespace RearrangesArguments

variable {arguments others : List Argument} (hothers : plugin.RearrangesArguments arguments others)

include hothers

/-- The same parameters are named, with the same operands. -/
theorem named_perm : (plugin.named arguments).Perm (plugin.named others) :=
  hothers.perm.filterMap _

theorem free_eq : plugin.free arguments = plugin.free others := by
  apply List.filter_congr
  intro parameter _
  rw [Bindings.contains, Bindings.contains, hothers.named_perm.any_eq]

theorem filter_isOrdered_eq : arguments.filter isOrdered = others.filter isOrdered := by
  rw [← filter_isOrdered_unnamed plugin arguments, hothers.unnamed, filter_isOrdered_unnamed]

theorem filled_eq : plugin.filled arguments = plugin.filled others := by
  rw [filled, filled, hothers.free_eq, hothers.filter_isOrdered_eq]

theorem surplus_eq : plugin.surplus arguments = plugin.surplus others := by
  rw [surplus_eq_withoutFirst, surplus_eq_withoutFirst, hothers.free_eq, hothers.unnamed]

theorem remaining_eq : plugin.remaining arguments = plugin.remaining others := by
  apply List.filter_congr
  intro parameter _
  rw [hothers.filled_eq, Bindings.contains, Bindings.contains,
    (hothers.named_perm.append_right _).any_eq]

/-- Only the order in which the named parameters are bound may change. -/
theorem reading_perm : (plugin.reading arguments).Perm (plugin.reading others) := by
  unfold reading
  rw [hothers.filled_eq, hothers.surplus_eq, hothers.remaining_eq]
  exact (hothers.named_perm.append_right _).append_right _

end RearrangesArguments

/-! ## Parameters that are named again -/

/-- A name that is reported as repeated occurs at least twice. -/
theorem two_le_count_of_repeatedAfter? {earlier names : List String} {name : String}
    (hrepeated : repeatedAfter? earlier names = some name) : 2 ≤ (earlier ++ names).count name := by
  induction names generalizing earlier with
  | nil => cases hrepeated
  | cons first rest ih =>
    rw [repeatedAfter?_cons] at hrepeated
    split at hrepeated
    · next hmem =>
      obtain rfl := Option.some.inj hrepeated
      have hbefore : 1 ≤ earlier.count first := List.count_pos_iff.mpr hmem
      rw [List.count_append, List.count_cons_self]
      omega
    · rw [List.append_cons]
      exact ih hrepeated

theorem isNamedTwice_of_repeatedAfter? {arguments : List Argument} {name : String}
    (hrepeated : repeatedAfter? [] (arguments.filterMap plugin.namedParameter?) = some name) :
    plugin.IsNamedTwice arguments name := by
  have hcount := two_le_count_of_repeatedAfter? hrepeated
  rwa [List.nil_append, List.count_filterMap] at hcount

theorem IsNamedTwice.of_perm {arguments others : List Argument} {name : String}
    (hperm : arguments.Perm others) (htwice : plugin.IsNamedTwice others name) :
    plugin.IsNamedTwice arguments name := by
  rwa [IsNamedTwice, hperm.countP_eq]

theorem fault?_of_repeatedAfter? {arguments : List Argument} {name : String}
    (hrepeated : repeatedAfter? [] (arguments.filterMap plugin.namedParameter?) = some name) :
    plugin.fault? arguments = some (.repeatedParameter plugin.name name) := by
  rw [fault?, hrepeated, Option.map_some, Option.some_or]

/-- Two outcomes are faults for parameters that are each named more than once, but are not the same
parameter. -/
def ReportApart {α : Type} (plugin : Plugin) (arguments : List Argument)
    (outcome other : Except Fault α) : Prop :=
  ∃ first second, first ≠ second ∧
    plugin.IsNamedTwice arguments first ∧ plugin.IsNamedTwice arguments second ∧
    outcome = .error (.malformed (.repeatedParameter plugin.name first)) ∧
    other = .error (.malformed (.repeatedParameter plugin.name second))

theorem ReportApart.bind {α β : Type} {arguments : List Argument} {outcome other : Except Fault α}
    (hapart : plugin.ReportApart arguments outcome other) (next : α → Except Fault β) :
    plugin.ReportApart arguments (outcome >>= next) (other >>= next) := by
  obtain ⟨first, second, hne, hfirst, hsecond, rfl, rfl⟩ := hapart
  exact ⟨first, second, hne, hfirst, hsecond, rfl, rfl⟩

/-- How the outcomes of two calls correspond that are rearrangements of each other. -/
inductive Correspond (plugin : Plugin) (arguments : List Argument) :
    Except Fault Bindings → Except Fault Bindings → Prop where
  | bound {bindings others : Bindings} (agree : bindings.Agree others) :
      Correspond plugin arguments (.ok bindings) (.ok others)
  | refused (fault : Fault) : Correspond plugin arguments (.error fault) (.error fault)
  | apart {outcome other : Except Fault Bindings}
      (reported : plugin.ReportApart arguments outcome other) :
      Correspond plugin arguments outcome other

namespace Correspond

variable {arguments : List Argument} {outcome other : Except Fault Bindings}

theorem bound_iff (houtcomes : plugin.Correspond arguments outcome other) :
    (∃ bindings, outcome = .ok bindings) ↔ ∃ bindings, other = .ok bindings := by
  cases houtcomes with
  | bound hagree => exact ⟨fun _ ↦ ⟨_, rfl⟩, fun _ ↦ ⟨_, rfl⟩⟩
  | refused fault => exact Iff.rfl
  | apart hapart =>
    obtain ⟨_, _, _, _, _, rfl, rfl⟩ := hapart
    simp only [reduceCtorEq, exists_false]

theorem agree {bindings others : Bindings}
    (houtcomes : plugin.Correspond arguments (.ok bindings) (.ok others)) :
    bindings.Agree others := by
  cases houtcomes with
  | bound hagree => exact hagree
  | apart hapart =>
    obtain ⟨_, _, _, _, _, herror, _⟩ := hapart
    cases herror

/-- What a built-in plugin makes of the outcomes. -/
theorem generate (houtcomes : plugin.Correspond arguments outcome other)
    (hplugin : plugin ∈ registry) (context : Context) :
    (outcome >>= plugin.generate context) = (other >>= plugin.generate context) ∨
      plugin.ReportApart arguments (outcome >>= plugin.generate context)
        (other >>= plugin.generate context) := by
  cases houtcomes with
  | bound hagree => exact .inl (generate_congr hplugin hagree context)
  | refused fault => exact .inl rfl
  | apart hapart => exact .inr (hapart.bind _)

end Correspond

/-- Rearranged arguments are bound alike or refused alike. Unless a parameter is named twice, what
else may be wrong is the same in both calls. -/
theorem RearrangesArguments.correspond (hplugin : plugin.IsWellFormed)
    {arguments others : List Argument} (hothers : plugin.RearrangesArguments arguments others) :
    plugin.Correspond arguments (plugin.bindArguments arguments) (plugin.bindArguments others) := by
  have hnames := hothers.perm.filterMap plugin.namedParameter?
  have hnone : repeatedAfter? [] (arguments.filterMap plugin.namedParameter?) = none ↔
      repeatedAfter? [] (others.filterMap plugin.namedParameter?) = none := by
    rw [repeatedAfter?_eq_none_iff List.nodup_nil, repeatedAfter?_eq_none_iff List.nodup_nil,
      List.nil_append, List.nil_append, hnames.nodup_iff]
  rw [bindArguments_eq hplugin, bindArguments_eq hplugin]
  cases hfirst : repeatedAfter? [] (arguments.filterMap plugin.namedParameter?) with
  | none =>
    have hfault : plugin.fault? arguments = plugin.fault? others := by
      rw [fault?, fault?, hfirst, hnone.mp hfirst, hothers.surplus_eq, hothers.remaining_eq]
    cases hcause : plugin.fault? others with
    | some cause =>
      rw [hfault, hcause]
      exact .refused _
    | none =>
      rw [hfault, hcause]
      have haccepts := (fault?_eq_none_iff plugin arguments).mp (hfault.trans hcause)
      exact .bound (Bindings.agree_of_perm (nodup_names_reading hplugin haccepts)
        hothers.reading_perm)
  | some first =>
    have hsome : repeatedAfter? [] (others.filterMap plugin.namedParameter?) ≠ none := by
      rw [Ne, ← hnone, hfirst]
      exact Option.some_ne_none first
    obtain ⟨second, hsecond⟩ := Option.ne_none_iff_exists'.mp hsome
    rw [fault?_of_repeatedAfter? hfirst, fault?_of_repeatedAfter? hsecond]
    by_cases hsame : first = second
    · rw [hsame]
      exact .refused _
    · exact .apart ⟨first, second, hsame, isNamedTwice_of_repeatedAfter? hfirst,
        (isNamedTwice_of_repeatedAfter? hsecond).of_perm hothers.perm, rfl, rfl⟩

/-! ## Entries in another order -/

def isNaming (plugin : Plugin) (entry : Entry) : Bool :=
  entry.argument?.any fun argument ↦ (plugin.namedParameter? argument).isSome

/-- Entries in another order, in which those that name no parameter keep theirs. -/
structure Rearranges (plugin : Plugin) (entries others : List Entry) : Prop where
  perm : entries.Perm others
  kept : entries.filter (!plugin.isNaming ·) = others.filter (!plugin.isNaming ·)

theorem findSome?_refusal?_filter (plugin : Plugin) (entries : List Entry) :
    (entries.filter (!plugin.isNaming ·)).findSome? Entry.refusal? =
      entries.findSome? Entry.refusal? := by
  rw [← List.head?_filterMap, ← List.head?_filterMap, List.filterMap_filter]
  congr 2
  funext entry
  cases entry with
  | argument value | pair key value => exact ite_self none
  | datum value => rfl

theorem unnamed_filterMap_argument? (plugin : Plugin) (entries : List Entry) :
    plugin.unnamed (entries.filterMap Entry.argument?) =
      (entries.filter (!plugin.isNaming ·)).filterMap Entry.argument? := by
  rw [unnamed, List.filter_filterMap, List.filterMap_filter]
  congr 1
  funext entry
  cases entry with
  | argument value | pair key value =>
    simp only [isNaming, Entry.argument?, Option.any_some, Option.filter_some,
      Option.not_isSome]
  | datum value => rfl

theorem Rearranges.arguments {entries others : List Entry}
    (hothers : plugin.Rearranges entries others) :
    plugin.RearrangesArguments (entries.filterMap Entry.argument?)
      (others.filterMap Entry.argument?) where
  perm := hothers.perm.filterMap _
  unnamed := by rw [unnamed_filterMap_argument?, unnamed_filterMap_argument?, hothers.kept]

/-- Rearranged entries are bound alike or refused alike. -/
theorem Rearranges.correspond (hplugin : plugin.IsWellFormed) {entries others : List Entry}
    (hothers : plugin.Rearranges entries others) :
    plugin.Correspond (entries.filterMap Entry.argument?) (plugin.bind entries)
      (plugin.bind others) := by
  have hrefusal : entries.findSome? Entry.refusal? = others.findSome? Entry.refusal? := by
    rw [← findSome?_refusal?_filter plugin, hothers.kept, findSome?_refusal?_filter]
  rw [bind, bind, Entry.toArguments_eq, Entry.toArguments_eq, hrefusal]
  cases others.findSome? Entry.refusal? with
  | some fault => exact .refused fault
  | none => exact hothers.arguments.correspond hplugin

/-- A call and its rearrangement are both bound, to operands that agree, or both refused. A built-in
plugin gives the same expression or the same fault for both, unless they are refused for parameters
that are each named more than once and differ. -/
theorem bind_rearranged (hplugin : plugin.IsWellFormed) {entries others : List Entry}
    (hothers : plugin.Rearranges entries others) :
    ((∃ bindings, plugin.bind entries = .ok bindings) ↔
      ∃ bindings, plugin.bind others = .ok bindings) ∧
    (∀ bindings again, plugin.bind entries = .ok bindings → plugin.bind others = .ok again →
      bindings.Agree again) ∧
    (plugin ∈ registry → ∀ (context : Context) (reference : Reference),
      reference.resolve = .ok plugin →
        compileCall context reference entries = compileCall context reference others ∨
        plugin.ReportApart (entries.filterMap Entry.argument?)
          (compileCall context reference entries) (compileCall context reference others)) := by
  have houtcomes := hothers.correspond hplugin
  refine ⟨houtcomes.bound_iff, ?_, ?_⟩
  · intro bindings again hbindings hagain
    rw [hbindings, hagain] at houtcomes
    exact houtcomes.agree
  · intro hmem context reference hresolve
    rw [compileCall_of_resolve hresolve, compileCall_of_resolve hresolve]
    exact houtcomes.generate hmem context

/-- An argument that names a parameter, behind and before one without a name. -/
theorem bind_rearranged_swapped :
    let entries : List Entry := [.pair none "x", .pair (some "with") "'-'"]
    let others : List Entry := [.pair (some "with") "'-'", .pair none "x"]
    let reference := Reference.named "whitespace"
    whitespace.IsWellFormed ∧ whitespace.Rearranges entries others ∧ whitespace ∈ registry ∧
      reference.resolve = .ok whitespace ∧
      (∃ bindings, whitespace.bind others = .ok bindings) ∧
      compileCall {} reference entries = compileCall {} reference others := by
  intro entries others reference
  have hplugin : whitespace.IsWellFormed := ⟨by decide, by decide⟩
  have hothers : whitespace.Rearranges entries others := ⟨.swap .., rfl⟩
  have hmem : whitespace ∈ registry := by simp [registry]
  obtain ⟨hbound, _, hcompile⟩ := bind_rearranged hplugin hothers
  refine ⟨hplugin, hothers, hmem, rfl, hbound.mp ⟨_, rfl⟩, ?_⟩
  rcases hcompile hmem {} reference rfl with heq | ⟨_, _, _, _, _, herror, _⟩
  · exact heq
  · cases herror

/-- Two parameters that are each named twice, in either order. -/
theorem rearranged_calls_report_apart :
    let entries : List Entry := [.pair (some "value") "a", .pair (some "value") "b",
      .pair (some "default") "c", .pair (some "default") "d"]
    let others : List Entry := [.pair (some "default") "c", .pair (some "default") "d",
      .pair (some "value") "a", .pair (some "value") "b"]
    let fault := Fault.malformed (.repeatedParameter "default" "value")
    let other := Fault.malformed (.repeatedParameter "default" "default")
    fallback.Rearranges entries others ∧
      compileCall {} (.named "functions/default") entries = .error fault ∧
      compileCall {} (.named "functions/default") others = .error other ∧
      fault.message ≠ other.message := by
  intro entries others fault other
  have hperm : entries.Perm others :=
    (List.perm_append_comm : (entries.take 2 ++ entries.drop 2).Perm _)
  exact ⟨⟨hperm, rfl⟩, rfl, rfl, by decide⟩

end Plugin

end TemplateCalls
