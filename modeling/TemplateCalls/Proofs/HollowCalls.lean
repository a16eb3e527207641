import TemplateCalls.Proofs.BoundExpressions
import TemplateCalls.Proofs.DecodableRuns

/-!
# Calls without the code that they carry

What a plugin writes around the operands of a call shows by itself if the empty text stands in the
place of every operand and of every computed key. Such a hollow call is bound, or refused, as the
call itself: what is bound to what depends on the kinds of the arguments, and on keys that are
indices or literal names, but never on code. So the hollow run of steps has the same imports as the
run itself, and a piece for each of its pieces.
-/

namespace TemplateCalls

open Outcome

/-! ## Arguments and entries -/

/-- The argument with the empty text in the place of its code: of its value, and of a computed key
unless that is empty. -/
def Argument.hollow (argument : Argument) : Argument where
  kind := argument.kind
  key :=
    if argument.kind = .computed then
      argument.key.map fun key ↦ if key.isEmpty then key else Expression.emptyText
    else argument.key
  value := Expression.emptyText

/-- The entry with its code taken out; a datum has none. -/
def Entry.hollow : Entry → Entry
  | .argument value => .argument value.hollow
  | .pair key value => .argument (Argument.ofPair key value).hollow
  | .datum value => .datum value

namespace Argument

theorem key_hollow_of_ne {argument : Argument} (hkind : argument.kind ≠ .computed) :
    argument.hollow.key = argument.key := if_neg hkind

/-- A computed key is missing or empty if it was. -/
theorem key_hollow_all_isEmpty (argument : Argument) :
    argument.hollow.key.all String.isEmpty = argument.key.all String.isEmpty := by
  by_cases hkind : argument.kind = .computed
  · have hkey : argument.hollow.key = _ := if_pos hkind
    rw [hkey]
    cases argument.key with
    | none => rfl
    | some key =>
      rw [Option.map_some, Option.all_some, Option.all_some]
      cases hempty : key.isEmpty with
      | true => rw [if_pos rfl, hempty]
      | false => rfl
  · rw [key_hollow_of_ne hkind]

end Argument

namespace Entry

theorem argument?_hollow (entry : Entry) :
    entry.hollow.argument? = entry.argument?.map Argument.hollow := by
  cases entry <;> rfl

/-- A stray datum stays what it is. -/
theorem refusal?_hollow (entry : Entry) : entry.hollow.refusal? = entry.refusal? := by
  cases entry <;> rfl

theorem findSome?_refusal?_hollow (entries : List Entry) :
    (entries.map hollow).findSome? refusal? = entries.findSome? refusal? := by
  rw [List.findSome?_map]
  exact congrArg (entries.findSome? ·) (funext refusal?_hollow)

theorem filterMap_argument?_hollow (entries : List Entry) :
    (entries.map hollow).filterMap argument? =
      (entries.filterMap argument?).map Argument.hollow := by
  rw [List.filterMap_map, List.map_filterMap]
  exact congrArg (entries.filterMap ·) (funext argument?_hollow)

/-- The arguments of emptied entries are the emptied arguments. -/
theorem toArguments_hollow (entries : List Entry) :
    toArguments (entries.map hollow) =
      (toArguments entries).map (·.map Argument.hollow) := by
  rw [toArguments_eq, toArguments_eq, findSome?_refusal?_hollow, filterMap_argument?_hollow]
  cases entries.findSome? refusal? <;> rfl

end Entry

/-! ## Binding -/

namespace Plugin

/-- An argument names the same parameter without its value. -/
theorem namedParameter?_hollow (plugin : Plugin) (argument : Argument) :
    plugin.namedParameter? argument.hollow = plugin.namedParameter? argument := by
  rcases argument with ⟨kind, key, value⟩
  cases kind <;> rfl

variable (plugin : Plugin) (arguments : List Argument)

theorem names_named_hollow :
    (plugin.named (arguments.map Argument.hollow)).names = (plugin.named arguments).names := by
  rw [names_named, names_named, List.filterMap_map]
  exact congrArg (arguments.filterMap ·) (funext (namedParameter?_hollow plugin))

theorem free_hollow : plugin.free (arguments.map Argument.hollow) = plugin.free arguments := by
  have hcontains : ∀ name, (plugin.named (arguments.map Argument.hollow)).contains name =
      (plugin.named arguments).contains name := by
    intro name
    rw [Bool.eq_iff_iff, Bindings.contains_iff, Bindings.contains_iff, names_named_hollow]
  simp only [free, hcontains]

/-- The same arguments are bound in order. -/
theorem filter_isOrdered_hollow :
    (arguments.map Argument.hollow).filter isOrdered =
      (arguments.filter isOrdered).map Argument.hollow := List.filter_map

theorem surplus_hollow :
    plugin.surplus (arguments.map Argument.hollow) =
      (plugin.surplus arguments).map Argument.hollow := by
  have hunnamed : plugin.unnamed (arguments.map Argument.hollow) =
      (plugin.unnamed arguments).map Argument.hollow := by
    simp only [unnamed, List.filter_map, Function.comp_def, namedParameter?_hollow]
  rw [surplus_eq_withoutFirst, surplus_eq_withoutFirst, free_hollow, hunnamed, withoutFirst_map]
  rfl

theorem names_filled_hollow :
    (plugin.filled (arguments.map Argument.hollow)).names = (plugin.filled arguments).names := by
  rw [filled, filled, names_fill, names_fill, free_hollow, filter_isOrdered_hollow,
    List.length_map]

theorem remaining_hollow :
    plugin.remaining (arguments.map Argument.hollow) = plugin.remaining arguments := by
  apply List.filter_congr
  intro parameter _
  rw [Bool.eq_iff_iff, Bool.not_eq_true', Bool.not_eq_true', Bindings.contains_eq_false_iff,
    Bindings.contains_eq_false_iff, Bindings.names_append, Bindings.names_append,
    names_named_hollow, names_filled_hollow]

variable {plugin arguments}

/-- Whether a call is bound depends on names alone, and on whether anything is left over. -/
theorem accepts_iff :
    plugin.Accepts arguments ↔ (plugin.named arguments).names.Nodup ∧
      (plugin.isVariadic = true ∨ plugin.surplus arguments = []) ∧
      ∀ parameter ∈ plugin.remaining arguments, parameter.isRequired = false := by
  have hgiven : ∀ parameter : Parameter,
      (parameter.omitted (plugin.surplus arguments)).isSome = true ↔
        parameter.isRequired = false := by
    intro parameter
    rw [isSome_omitted, Bool.not_eq_true']
  exact ⟨fun h ↦ ⟨h.namedOnce, h.taken, fun parameter hmem ↦ (hgiven _).mp (h.given _ hmem)⟩,
    fun h ↦ ⟨h.1, h.2.1, fun parameter hmem ↦ (hgiven _).mpr (h.2.2 _ hmem)⟩⟩

/-- Whether a call is accepted does not depend on the values in it. -/
theorem accepts_hollow_iff :
    plugin.Accepts (arguments.map Argument.hollow) ↔ plugin.Accepts arguments := by
  rw [accepts_iff, accepts_iff, names_named_hollow, surplus_hollow, List.map_eq_nil_iff,
    remaining_hollow]

theorem exists_bind_iff (hplugin : plugin.IsWellFormed) {entries : List Entry} :
    (∃ bindings, plugin.bind entries = .ok bindings) ↔
      ∃ arguments, Entry.toArguments entries = .ok arguments ∧ plugin.Accepts arguments := by
  constructor
  · rintro ⟨bindings, hbind⟩
    obtain ⟨arguments, harguments, hbound⟩ := bind_eq_ok_iff.mp hbind
    exact ⟨arguments, harguments, ((bindArguments_eq_ok_iff hplugin).mp hbound).1⟩
  · rintro ⟨arguments, harguments, haccepts⟩
    exact ⟨_, bind_eq_ok_iff.mpr
      ⟨arguments, harguments, (bindArguments_eq_ok_iff hplugin).mpr ⟨haccepts, rfl⟩⟩⟩

theorem exists_bind_hollow_iff (hplugin : plugin.IsWellFormed) {entries : List Entry} :
    (∃ bindings, plugin.bind (entries.map Entry.hollow) = .ok bindings) ↔
      ∃ bindings, plugin.bind entries = .ok bindings := by
  rw [exists_bind_iff hplugin, exists_bind_iff hplugin, Entry.toArguments_hollow]
  cases Entry.toArguments entries with
  | error fault => simp [Except.map]
  | ok arguments =>
    simp only [Except.map, Except.ok.injEq, exists_eq_left', accepts_hollow_iff]

end Plugin

/-! ## Literals -/

namespace Expression

variable (earlier : List Nat)

theorem integerKey?_hollow (argument : Argument) :
    integerKey? earlier argument.hollow = integerKey? earlier argument := by
  rcases argument with ⟨kind, key, value⟩
  cases kind <;> rfl

theorem faultOf?_hollow (argument : Argument) :
    faultOf? earlier argument.hollow = faultOf? earlier argument := by
  have hempty := argument.key_hollow_all_isEmpty
  rcases argument with ⟨kind, key, value⟩
  cases kind with
  | computed =>
    have hkeyFault : keyFault? (Argument.hollow ⟨.computed, key, value⟩) =
        keyFault? ⟨.computed, key, value⟩ :=
      congrArg (fun empty : Bool ↦ if empty then some (Malformed.emptyKey .computed) else none)
        hempty
    rw [faultOf?, hkeyFault]
    rfl
  | positional | index | literal => rfl

/-- The faults of a literal do not depend on the values in it. -/
theorem firstFault?_hollow (arguments : List Argument) :
    firstFault? earlier (arguments.map Argument.hollow) = firstFault? earlier arguments := by
  induction arguments generalizing earlier with
  | nil => rfl
  | cons argument rest ih =>
    rw [List.map_cons, firstFault?, firstFault?, faultOf?_hollow, integerKey?_hollow, ih]

theorem exists_collection_hollow_iff {entries : List Entry} :
    (∃ code, collection (entries.map Entry.hollow) = .ok code) ↔
      ∃ code, collection entries = .ok code := by
  simp only [collection_eq_ok_iff, exists_and_left, exists_eq, and_true,
    Entry.findSome?_refusal?_hollow, Entry.filterMap_argument?_hollow, firstFault?_hollow]

end Expression

/-! ## Calls and steps -/

namespace Plugin

variable {plugin : Plugin} {entries : List Entry}

/-- A plugin that has an expression for every call it binds refuses what it does not bind. -/
theorem exists_compile_iff (hplugin : plugin.IsWellFormed) (context : Context)
    (hgenerate : ∀ arguments, plugin.Accepts arguments →
      ∃ code, plugin.generate context (plugin.reading arguments) = .ok code) :
    (∃ code, plugin.compile context entries = .ok code) ↔
      ∃ bindings, plugin.bind entries = .ok bindings := by
  constructor
  · rintro ⟨code, hcode⟩
    obtain ⟨bindings, hbind, _⟩ := bind_eq_ok_iff.mp hcode
    exact ⟨bindings, hbind⟩
  · rintro ⟨bindings, hbind⟩
    obtain ⟨arguments, _, hbound⟩ := bind_eq_ok_iff.mp hbind
    obtain ⟨haccepts, rfl⟩ := (bindArguments_eq_ok_iff hplugin).mp hbound
    obtain ⟨code, hcode⟩ := hgenerate arguments haccepts
    exact ⟨code, bind_eq_ok_iff.mpr ⟨_, hbind, hcode⟩⟩

theorem exists_compile_hollow_iff (hplugin : plugin ∈ registry) (context : Context) :
    (∃ code, plugin.compile context (entries.map Entry.hollow) = .ok code) ↔
      ∃ code, plugin.compile context entries = .ok code := by
  have hwellFormed := isWellFormed_of_mem_registry hplugin
  by_cases harray : plugin = array
  · subst harray
    simp only [compile_array, Expression.exists_collection_hollow_iff]
  · have hgenerate : ∀ arguments, plugin.Accepts arguments →
        ∃ code, plugin.generate context (plugin.reading arguments) = .ok code :=
      fun _ ↦ exists_generate hplugin harray context
    rw [exists_compile_iff hwellFormed context hgenerate,
      exists_compile_iff hwellFormed context hgenerate, exists_bind_hollow_iff hwellFormed]

end Plugin

namespace RenderModule

def Step.hollow : Step → Step
  | .call reference entries => .call reference (entries.map Entry.hollow)
  | step => step

def Step.IsBuiltIn : Step → Prop
  | .call reference _ => reference.IsBuiltIn
  | _ => True

variable {context : Context} {step : Step} {steps : List Step}

/-- A call of a built-in plugin is compiled exactly if the emptied call is. -/
theorem exists_compileCall_hollow_iff (context : Context) {reference : Reference}
    (hbuiltIn : reference.IsBuiltIn) (entries : List Entry) :
    (∃ code, compileCall context reference (entries.map Entry.hollow) = .ok code) ↔
      ∃ code, compileCall context reference entries = .ok code := by
  cases hresolve : reference.resolve with
  | error fault => simp [compileCall, hresolve]
  | ok plugin =>
    have hplugin := Reference.mem_registry_of_resolve hbuiltIn hresolve
    simp only [compileCall, hresolve, ok_bind, Plugin.exists_compile_hollow_iff hplugin]

/-- A hollow step adds a piece if the step does, and needs the same modules. -/
theorem Step.hollow_spec (context : Context) (hbuiltIn : step.IsBuiltIn) :
    (step.hollow.piece? context).isSome = (step.piece? context).isSome ∧
      step.hollow.needed context = step.needed context := by
  cases step with
  | text output | compile => exact ⟨rfl, rfl⟩
  | call reference entries =>
    have hcode := exists_compileCall_hollow_iff context hbuiltIn entries
    cases hhollow : compileCall context reference (entries.map Entry.hollow) with
    | ok code =>
      obtain ⟨written, hwritten⟩ := hcode.mp ⟨code, hhollow⟩
      simp only [hollow, piece?, needed, hhollow, hwritten]
      cases reference.resolve <;> exact ⟨rfl, rfl⟩
    | error fault =>
      cases hwritten : compileCall context reference entries with
      | ok code =>
        obtain ⟨_, hok⟩ := hcode.mpr ⟨code, hwritten⟩
        rw [hhollow] at hok
        cases hok
      | error other =>
        simp only [hollow, piece?, needed, hhollow, hwritten]
        cases reference.resolve <;> exact ⟨rfl, rfl⟩

/-- The hollow run has the imports of the run, and as many pieces. -/
theorem run_hollow {target : RenderModule} (hsteps : ∀ step ∈ steps, step.IsBuiltIn) :
    let built := (target.run steps).2
    let hollow := (target.run (steps.map Step.hollow)).2
    hollow.imports = built.imports ∧ hollow.pieces.length = built.pieces.length := by
  intro built hollow
  have hneeded : (steps.map Step.hollow).flatMap (·.needed target.context) =
      steps.flatMap (·.needed target.context) := by
    rw [List.flatMap_map]
    exact List.flatMap_congr fun step hstep ↦
      (Step.hollow_spec target.context (hsteps step hstep)).2
  have hpieces : ((steps.map Step.hollow).filterMap (·.piece? target.context)).length =
      (steps.filterMap (·.piece? target.context)).length := by
    rw [List.length_filterMap_eq_countP, List.length_filterMap_eq_countP, List.countP_map]
    refine List.countP_congr fun step hstep ↦ ?_
    rw [Function.comp_apply, (Step.hollow_spec target.context (hsteps step hstep)).1]
  constructor
  · simp only [hollow, built, run_snd, hneeded]
  · simp only [hollow, built, run_snd, List.length_append, hpieces]

end RenderModule

end TemplateCalls
