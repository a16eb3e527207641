import TemplateCalls.Proofs.BindingAccount
import TemplateCalls.Proofs.LiteralFaults
import TemplateCalls.Proofs.SelfContainedCalls

/-!
# Why a call is refused

A call of a built-in plugin is refused because the reference names no plugin, because an argument or
the binding is malformed, or, for a literal, because an index is too long to be read or written. A
bound call always has the operands that its plugin needs, so nothing else can go wrong when the
expression is generated.

Entries are taken to be arguments or raw pairs; what an entry is refused for that is neither is told
by `Entry.toArguments_eq`.
-/

namespace TemplateCalls

open Outcome

def Fault.IsMalformed (fault : Fault) : Prop := ∃ cause, fault = .malformed cause

namespace Plugin

variable {plugin : Plugin}

/-! ## Binding -/

/-- Whatever a well-formed plugin refuses in its arguments is malformed. -/
theorem failsOnly_bindArguments (hplugin : plugin.IsWellFormed) (arguments : List Argument) :
    FailsOnly Fault.IsMalformed (plugin.bindArguments arguments) := by
  rw [bindArguments_eq hplugin]
  cases plugin.fault? arguments with
  | some cause => exact failsOnly_error ⟨cause, rfl⟩
  | none => exact failsOnly_ok _

/-! ## Operands of a bound call -/

section operands

variable {arguments : List Argument} (hplugin : plugin.IsWellFormed)
  (haccepts : plugin.Accepts arguments) (hsingle : plugin.isVariadic = false)

include hplugin haccepts hsingle

/-- Without a variadic parameter, every parameter of a bound call has one source. -/
theorem exists_required (name : String) (hname : name ∈ plugin.parameters.map (·.name)) :
    ∃ source, (plugin.reading arguments).required name = .ok source := by
  obtain ⟨⟨_, operand⟩, hmem, rfl⟩ :=
    List.mem_map.mp ((mem_names_reading_iff haccepts).mpr hname)
  have hget := Bindings.get?_eq_some_of_mem (nodup_names_reading hplugin haccepts) hmem
  rw [Bindings.required, hget]
  rcases operand_of_mem_reading hmem with ⟨_, _, rfl⟩ | ⟨_, _, source, _, rfl⟩ | ⟨hvariadic, _⟩
  · exact ⟨_, rfl⟩
  · exact ⟨source, rfl⟩
  · rw [hsingle] at hvariadic
    cases hvariadic

/-- An operand that has a stand is there in every accepted call. -/
theorem exists_optional (name : String) (hname : name ∈ plugin.parameters.map (·.name))
    (stand : String) : ∃ source, (plugin.reading arguments).optional name stand = .ok source := by
  unfold Bindings.optional
  split
  · exact exists_required hplugin haccepts hsingle name hname
  · exact ⟨stand, rfl⟩

end operands

/-! ## The built-in plugins -/

/-- A plugin that makes an expression of a required operand and of one that may be omitted has one for
every bound call. -/
theorem exists_generate_of_operands (hplugin : plugin.IsWellFormed)
    (hsingle : plugin.isVariadic = false) {first second stand : String}
    (hfirst : first ∈ plugin.parameters.map (·.name))
    (hsecond : second ∈ plugin.parameters.map (·.name)) {context : Context}
    {expression : String → String → String}
    (hgenerate : ∀ bindings, plugin.generate context bindings = do
      let value ← bindings.required first
      let operand ← bindings.optional second stand
      return expression value operand) {arguments : List Argument}
    (haccepts : plugin.Accepts arguments) :
    ∃ code, plugin.generate context (plugin.reading arguments) = .ok code := by
  obtain ⟨value, hvalue⟩ := exists_required hplugin haccepts hsingle first hfirst
  obtain ⟨operand, hoperand⟩ := exists_optional hplugin haccepts hsingle second hsecond stand
  rw [hgenerate]
  exact ⟨_, bind_eq_ok_iff.mpr ⟨value, hvalue, bind_eq_ok_iff.mpr ⟨operand, hoperand, rfl⟩⟩⟩

/-- Every bound call of a built-in plugin that is not the literal has an expression. -/
theorem exists_generate (hplugin : plugin ∈ registry) (harray : plugin ≠ array) (context : Context)
    {arguments : List Argument} (haccepts : plugin.Accepts arguments) :
    ∃ code, plugin.generate context (plugin.reading arguments) = .ok code := by
  have hwellFormed := isWellFormed_of_mem_registry hplugin
  simp only [registry, List.mem_cons, List.not_mem_nil, or_false] at hplugin
  rcases hplugin with rfl | rfl | rfl
  · have hvalue : "value" ∈ fallback.parameters.map (·.name) := by decide
    have hdefault : "default" ∈ fallback.parameters.map (·.name) := by decide
    exact exists_generate_of_operands hwellFormed rfl hvalue hdefault (fun _ ↦ rfl) haccepts
  · have hvalue : "value" ∈ whitespace.parameters.map (·.name) := by decide
    have hwith : "with" ∈ whitespace.parameters.map (·.name) := by decide
    exact exists_generate_of_operands hwellFormed rfl hvalue hwith (fun _ ↦ rfl) haccepts
  · exact absurd rfl harray

/-- A plugin whose bound calls all have an expression refuses nothing but malformed calls. -/
theorem failsOnly_compile (hplugin : plugin.IsWellFormed) {context : Context}
    {entries : List Entry} (hentries : ∀ entry ∈ entries, entry.argument?.isSome = true)
    (hgenerate : ∀ arguments, plugin.Accepts arguments →
      ∃ code, plugin.generate context (plugin.reading arguments) = .ok code) :
    FailsOnly Fault.IsMalformed (plugin.compile context entries) := by
  rw [compile, bind, Entry.toArguments_of_valid hentries, ok_bind]
  refine (failsOnly_bindArguments hplugin _).bind fun bindings hbindings ↦ ?_
  obtain ⟨haccepts, rfl⟩ := (bindArguments_eq_ok_iff hplugin).mp hbindings
  obtain ⟨code, hcode⟩ := hgenerate _ haccepts
  rw [hcode]
  exact failsOnly_ok code

/-! ## The literal -/

theorem namedParameter?_array (argument : Argument) : array.namedParameter? argument = none := by
  rw [Option.eq_none_iff_forall_ne_some]
  intro name hname
  obtain ⟨_, _, _, hparameter, _⟩ := namedParameter?_eq_some_iff.mp hname
  cases hparameter

theorem bindNamed_array (bindings : Bindings) (arguments : List Argument) :
    array.bindNamed bindings arguments = .ok (bindings, arguments) := by
  induction arguments with
  | nil => rfl
  | cons argument rest ih =>
    rw [bindNamed, namedParameter?_array]
    dsimp only
    rw [ih]
    rfl

theorem fillFree_array (bindings : Bindings) (arguments : List Argument) :
    array.fillFree [] bindings arguments = .ok (bindings, arguments) := by
  induction arguments with
  | nil => rfl
  | cons argument rest ih =>
    rw [fillFree_of_variadic bindings rest (.inr rfl) rfl, ih]
    rfl

/-- The literal takes all arguments of the call as they are. -/
theorem bindArguments_array (arguments : List Argument) :
    array.bindArguments arguments = .ok [("rest", .rest (arguments.map .argument))] := by
  have hfree : (array.singleParameters.filter fun parameter ↦
      !Bindings.contains [] parameter.name) = [] := rfl
  rw [bindArguments, bindNamed_array, ok_bind]
  dsimp only
  rw [hfree, fillFree_array, ok_bind]
  rfl

/-- A call of the literal is the literal of its entries, or is refused for what they are refused for.
The entries have become arguments before the literal is made of them. -/
theorem compile_array (context : Context) (entries : List Entry) :
    array.compile context entries = Expression.collection entries := by
  have hgenerate : ∀ arguments : List Argument,
      array.generate context [("rest", .rest (arguments.map .argument))] =
        Expression.collection (arguments.map .argument) := fun _ ↦ rfl
  rw [compile, bind, Expression.collection]
  cases Entry.toArguments entries with
  | error fault => rfl
  | ok arguments =>
    rw [ok_bind, bindArguments_array, ok_bind, hgenerate, Expression.collection,
      Entry.toArguments_map_argument]

/-! ## References -/

def IsNamed (plugin : Plugin) (reference : String) : Prop :=
  reference = plugin.name ∨ reference = plugin.fullName

/-- What a reference finds is in the registry under that reference. -/
theorem isNamed_of_find? {reference : String} (hfind : find? reference = some plugin) :
    plugin ∈ registry ∧ plugin.IsNamed reference := by
  rcases Option.or_eq_some_iff.mp hfind with hfull | ⟨_, hshort⟩
  · have hname : (plugin.fullName == reference) = true := by
      simpa only using List.find?_some hfull
    exact ⟨List.mem_of_find?_eq_some hfull, .inr (eq_of_beq hname).symm⟩
  · have hname : (plugin.name == reference) = true := by
      simpa only using List.find?_some hshort
    exact ⟨List.mem_of_find?_eq_some hshort, .inl (eq_of_beq hname).symm⟩

/-- A reference finds nothing exactly if no plugin of the registry goes by it. -/
theorem find?_eq_none_iff {reference : String} :
    find? reference = none ↔ ∀ plugin ∈ registry, ¬plugin.IsNamed reference := by
  simp only [find?, Option.or_eq_none_iff, List.find?_eq_none, beq_iff_eq, IsNamed, not_or]
  constructor
  · rintro ⟨hfull, hshort⟩ plugin hplugin
    exact ⟨Ne.symm (hshort plugin hplugin), Ne.symm (hfull plugin hplugin)⟩
  · intro hnone
    exact ⟨fun plugin hplugin ↦ Ne.symm (hnone plugin hplugin).2,
      fun plugin hplugin ↦ Ne.symm (hnone plugin hplugin).1⟩

/-- A built-in plugin that is not the literal refuses nothing but malformed calls. -/
theorem failsOnly_compile_of_not_array {reference : String}
    (hfind : find? reference = some plugin) (harray : ¬array.IsNamed reference)
    {context : Context} {entries : List Entry}
    (hentries : ∀ entry ∈ entries, entry.argument?.isSome = true) :
    FailsOnly Fault.IsMalformed (plugin.compile context entries) := by
  obtain ⟨hplugin, hnamed⟩ := isNamed_of_find? hfind
  have hne : plugin ≠ array := fun heq ↦ harray (heq ▸ hnamed)
  exact failsOnly_compile (isWellFormed_of_mem_registry hplugin) hentries
    fun _ ↦ exists_generate hplugin hne context

/-- Each reference names one plugin. -/
theorem eq_array_of_isNamed {reference : String} (harray : array.IsNamed reference) :
    find? reference = some array := by
  rcases harray with rfl | rfl <;> rfl

end Plugin

/-! ## Calls -/

open Expression (firstFault?)

section calls

variable {context : Context} {reference : String} {entries : List Entry}

theorem compileCall_of_find? {plugin : Plugin} (context : Context)
    (hfind : Plugin.find? reference = some plugin) (entries : List Entry) :
    compileCall context (.named reference) entries = plugin.compile context entries := by
  rw [compileCall, Reference.resolve, hfind, ok_bind]

theorem compileCall_of_find?_eq_none (context : Context) (hfind : Plugin.find? reference = none)
    (entries : List Entry) :
    compileCall context (.named reference) entries = .error (.unknownPlugin reference) := by
  rw [compileCall, Reference.resolve, hfind, error_bind]

/-- A call of the array plugin is a collection, whatever the context. -/
theorem compileCall_of_array {reference : Reference}
    (hresolve : reference.resolve = .ok Plugin.array) (context : Context) (entries : List Entry) :
    compileCall context reference entries = Expression.collection entries := by
  rw [compileCall, hresolve, ok_bind, Plugin.compile_array]

variable (hentries : ∀ entry ∈ entries, entry.argument?.isSome = true)

include hentries

/-- A literal is refused for the first fault of its arguments. -/
theorem compileCall_array_eq_error_iff (harray : Plugin.array.IsNamed reference) {fault : Fault} :
    compileCall context (.named reference) entries = .error fault ↔
      firstFault? [] (entries.filterMap Entry.argument?) = some fault := by
  rw [compileCall_of_find? context (Plugin.eq_array_of_isNamed harray),
    Plugin.compile_array,
    Expression.collection_eq_of_toArguments (Entry.toArguments_of_valid hentries)]
  cases firstFault? [] (entries.filterMap Entry.argument?) with
  | none => simp
  | some first => simp

/-- A call of a known plugin is refused as malformed or for a numeral of a literal. -/
theorem compileCall_error_cases {plugin : Plugin} (hfind : Plugin.find? reference = some plugin)
    {fault : Fault} (hfault : compileCall context (.named reference) entries = .error fault) :
    fault.IsMalformed ∨ Plugin.array.IsNamed reference ∧ ∃ overflow, fault = .numeral overflow := by
  by_cases harray : Plugin.array.IsNamed reference
  · have hfirst := (compileCall_array_eq_error_iff hentries harray).mp hfault
    exact (Expression.firstFault_cases hfirst).imp id fun hnumeral ↦ ⟨harray, hnumeral⟩
  · rw [compileCall_of_find? context hfind] at hfault
    exact .inl (Plugin.failsOnly_compile_of_not_array hfind harray hentries fault hfault)

end calls

/-- A call is refused as unknown exactly if its reference names no plugin, and for a numeral exactly
if it is a literal whose first fault is a numeral beyond the limit. Whatever else it is refused for
is malformed. -/
theorem compileCall_refusals (context : Context) (reference : String) (entries : List Entry)
    (hentries : ∀ entry ∈ entries, entry.argument?.isSome = true) :
    let outcome := compileCall context (.named reference) entries
    (outcome = .error (.unknownPlugin reference) ↔
      ∀ plugin ∈ Plugin.registry, ¬plugin.IsNamed reference) ∧
    (∀ overflow, outcome = .error (.numeral overflow) ↔
      Plugin.array.IsNamed reference ∧
        firstFault? [] (entries.filterMap Entry.argument?) = some (.numeral overflow)) ∧
    FailsOnly (fun fault ↦ fault = .unknownPlugin reference ∨ fault.IsMalformed ∨
      ∃ overflow, fault = .numeral overflow) outcome := by
  intro outcome
  rw [← Plugin.find?_eq_none_iff]
  cases hfind : Plugin.find? reference with
  | none =>
    have houtcome : outcome = .error (.unknownPlugin reference) :=
      compileCall_of_find?_eq_none context hfind entries
    have harray : ¬Plugin.array.IsNamed reference :=
      Plugin.find?_eq_none_iff.mp hfind _ (by simp [Plugin.registry])
    refine ⟨by simp [houtcome], fun overflow ↦ by simp [houtcome, harray], ?_⟩
    rw [houtcome]
    exact failsOnly_error (.inl rfl)
  | some plugin =>
    have hcases : ∀ fault, outcome = .error fault → fault.IsMalformed ∨
        Plugin.array.IsNamed reference ∧ ∃ overflow, fault = .numeral overflow :=
      fun fault ↦ compileCall_error_cases hentries hfind
    refine ⟨⟨fun hunknown ↦ ?_, fun hnone ↦ absurd hnone (Option.some_ne_none _)⟩,
      fun overflow ↦ ⟨fun hnumeral ↦ ?_, ?_⟩,
      fun fault hfault ↦ .inr ((hcases fault hfault).imp id And.right)⟩
    · rcases hcases _ hunknown with ⟨_, hcause⟩ | ⟨_, _, hoverflow⟩
      · cases hcause
      · cases hoverflow
    · rcases hcases _ hnumeral with ⟨_, hcause⟩ | ⟨harray, _⟩
      · cases hcause
      · exact ⟨harray, (compileCall_array_eq_error_iff hentries harray).mp hnumeral⟩
    · rintro ⟨harray, hfirst⟩
      exact (compileCall_array_eq_error_iff hentries harray).mpr hfirst

theorem isIndexKey_replicate (count : Nat) :
    Argument.isIndexKey (.ofList (List.replicate (count + 1) '1')) = true := by
  simp [Argument.isIndexKey, Decimal.isNumeral]

/-- An index of one digit more than can be read. -/
theorem compileCall_refusals_long_index :
    let key := String.ofList (List.replicate (Decimal.digitLimit + 1) '1')
    let entries : List Entry := [.argument (.index key "x")]
    (∀ entry ∈ entries, entry.argument?.isSome = true) ∧
      compileCall {} (.named "array") entries =
        .error (.numeral (.reading (Decimal.digitLimit + 1))) := by
  suffices hkey : ∀ key : String, key.toList.length = Decimal.digitLimit + 1 →
      Argument.isIndexKey key = true →
      let entries : List Entry := [.argument (.index key "x")]
      (∀ entry ∈ entries, entry.argument?.isSome = true) ∧
        compileCall {} (.named "array") entries =
          .error (.numeral (.reading (Decimal.digitLimit + 1))) from
    hkey _ (by rw [String.toList_ofList, List.length_replicate])
      (isIndexKey_replicate Decimal.digitLimit)
  intro key hlength hindex entries
  have hentries : ∀ entry ∈ entries, entry.argument?.isSome = true :=
    List.forall_mem_singleton.mpr rfl
  have hfirst : firstFault? [] (entries.filterMap Entry.argument?) =
      some (.numeral (.reading (Decimal.digitLimit + 1))) := by
    simp [entries, Entry.argument?, firstFault?, Expression.faultOf?, Expression.keyFault?,
      Expression.overflow?, Argument.index, hindex, hlength, Option.filter_some]
  have hnumeral := (compileCall_refusals {} "array" entries hentries).2.1
    (.reading (Decimal.digitLimit + 1))
  exact ⟨hentries, hnumeral.mpr ⟨.inl rfl, hfirst⟩⟩

end TemplateCalls
