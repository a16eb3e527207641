import Mathlib.Data.List.Count
import TemplateCalls.Proofs.BindingPasses
import TemplateCalls.Proofs.Entries

/-!
# Why a call is not bound

A call is refused exactly if one parameter is named twice, an argument has a key that names nothing
or comes after all free parameters are filled, without a variadic parameter to take it, or a
required parameter is left without an operand. Each of these is a condition on the call as a whole.
Where several hold, what is reported is an argument that names a parameter again before one that
nothing takes, and that before a parameter without an operand, and of each kind the first.

Parameters are taken to have distinct names, and at most one of them to be variadic.
-/

namespace TemplateCalls.Plugin

/-! ## What may be wrong with a call -/

/-- Two arguments name the same parameter. -/
def NamesTwice (plugin : Plugin) (arguments : List Argument) : Prop :=
  ∃ parameter ∈ plugin.parameters, parameter.variadic = false ∧
    2 ≤ arguments.countP fun argument ↦
      argument.kind == .literal && argument.key == some parameter.name

/-- An argument has a key that is computed, or that is the name of no parameter. -/
def IsStranger (plugin : Plugin) (argument : Argument) : Prop :=
  argument.kind = .computed ∨
    argument.kind = .literal ∧ ∀ parameter ∈ plugin.parameters, argument.key ≠ some parameter.name

def HasStranger (plugin : Plugin) (arguments : List Argument) : Prop :=
  plugin.isVariadic = false ∧ ∃ argument ∈ arguments, plugin.IsStranger argument

/-- There are more arguments without a name than free parameters, and nothing collects them. -/
def HasExcess (plugin : Plugin) (arguments : List Argument) : Prop :=
  plugin.isVariadic = false ∧
    (plugin.free arguments).length < (arguments.filter isOrdered).length

/-- A required parameter is neither named nor filled. -/
def LacksOperand (plugin : Plugin) (arguments : List Argument) : Prop :=
  ∃ parameter ∈ plugin.remaining arguments, parameter.isRequired = true

variable {plugin : Plugin} {arguments : List Argument}

/-! ## Names -/

/-- A parameter is named twice exactly if the names that are given are not distinct. -/
theorem namesTwice_iff :
    plugin.NamesTwice arguments ↔ ¬(arguments.filterMap plugin.namedParameter?).Nodup := by
  have hcount : ∀ parameter ∈ plugin.singleParameters,
      (arguments.filterMap plugin.namedParameter?).count parameter.name =
        arguments.countP fun argument ↦
          argument.kind == .literal && argument.key == some parameter.name := by
    intro parameter hparameter
    rw [List.count_filterMap]
    refine List.countP_congr fun argument _ ↦ ?_
    simp only [beq_iff_eq, Bool.and_eq_true, namedParameter?_eq_some_iff]
    exact ⟨fun h ↦ ⟨h.1, h.2.1⟩, fun h ↦ ⟨h.1, h.2, parameter, hparameter, rfl⟩⟩
  simp only [List.nodup_iff_count_le_one, not_forall, Nat.not_le]
  constructor
  · rintro ⟨parameter, hparameter, hsingle, htwice⟩
    have hmem : parameter ∈ plugin.singleParameters :=
      List.mem_filter.mpr ⟨hparameter, by rw [hsingle]; rfl⟩
    exact ⟨parameter.name, by rw [hcount parameter hmem]; exact htwice⟩
  · rintro ⟨name, htwice⟩
    have hnamed : name ∈ arguments.filterMap plugin.namedParameter? :=
      List.count_pos_iff.mp (Nat.lt_of_succ_lt htwice)
    obtain ⟨argument, _, hargument⟩ := List.mem_filterMap.mp hnamed
    obtain ⟨_, _, parameter, hparameter, rfl⟩ := namedParameter?_eq_some_iff.mp hargument
    rw [hcount parameter hparameter] at htwice
    exact ⟨parameter, List.mem_of_mem_filter hparameter,
      not_variadic_of_mem_singleParameters hparameter, htwice⟩

/-! ## Arguments that nothing takes -/

theorem withoutFirst_eq_nil_iff {α : Type} {property : α → Bool} {count : Nat} {items : List α} :
    withoutFirst property count items = [] ↔
      (∀ item ∈ items, property item = true) ∧ items.length ≤ count := by
  induction items generalizing count with
  | nil => simp [withoutFirst_nil]
  | cons item rest ih =>
    cases hitem : property item with
    | false => simp [withoutFirst_cons_of_not count rest hitem, hitem]
    | true =>
      cases count with
      | zero => simp [withoutFirst_zero]
      | succ count => simp [withoutFirst, hitem, ih]

theorem mem_singleParameters_of_not_variadic (hvariadic : plugin.isVariadic = false)
    {parameter : Parameter} (hparameter : parameter ∈ plugin.parameters) :
    parameter ∈ plugin.singleParameters := by
  rw [isVariadic, List.any_eq_false] at hvariadic
  have hsingle : parameter.variadic = false := Bool.eq_false_iff.mpr (hvariadic _ hparameter)
  exact List.mem_filter.mpr ⟨hparameter, by rw [hsingle]; rfl⟩

/-- Without a variadic parameter, a stranger neither names a parameter nor fills one. -/
theorem isStranger_iff (hvariadic : plugin.isVariadic = false) {argument : Argument} :
    plugin.IsStranger argument ↔
      plugin.namedParameter? argument = none ∧ isOrdered argument = false := by
  rw [IsStranger, Option.eq_none_iff_forall_ne_some, isOrdered]
  simp only [Ne, namedParameter?_eq_some_iff]
  cases argument.kind with
  | positional | index | computed => simp
  | literal =>
    constructor
    · rintro (hkind | ⟨-, hkey⟩)
      · cases hkind
      · refine ⟨?_, rfl⟩
        rintro name ⟨-, hname, parameter, hparameter, rfl⟩
        exact hkey parameter (List.mem_of_mem_filter hparameter) hname
    · rintro ⟨hnamed, -⟩
      refine .inr ⟨rfl, fun parameter hparameter hkey ↦ ?_⟩
      exact hnamed parameter.name ⟨rfl, hkey, parameter,
        mem_singleParameters_of_not_variadic hvariadic hparameter, rfl⟩

/-- Something is left over exactly if there are strangers or too many arguments without a name. -/
theorem surplus_ne_nil_iff (hvariadic : plugin.isVariadic = false) :
    plugin.surplus arguments ≠ [] ↔
      (∃ argument ∈ arguments, plugin.IsStranger argument) ∨
        (plugin.free arguments).length < (arguments.filter isOrdered).length := by
  have hstranger : (∃ argument ∈ arguments, plugin.IsStranger argument) ↔
      ¬∀ argument ∈ plugin.unnamed arguments, isOrdered argument = true := by
    simp only [unnamed, List.mem_filter, isStranger_iff hvariadic, not_forall, Bool.not_eq_true,
      Option.isNone_iff_eq_none, exists_prop, and_assoc]
  rw [hstranger, Ne, surplus_eq_withoutFirst, withoutFirst_eq_nil_iff, ← filter_isOrdered_unnamed]
  by_cases hordered : ∀ argument ∈ plugin.unnamed arguments, isOrdered argument = true
  · rw [List.filter_eq_self.mpr hordered, not_and_or, Nat.not_le]
  · exact ⟨fun _ ↦ .inl hordered, fun _ h ↦ hordered h.1⟩

/-! ## All conditions together -/

/-- A call is refused exactly under one of the four conditions. -/
theorem not_accepts_iff :
    ¬plugin.Accepts arguments ↔
      plugin.NamesTwice arguments ∨ plugin.HasStranger arguments ∨ plugin.HasExcess arguments ∨
        plugin.LacksOperand arguments := by
  have haccepts : plugin.Accepts arguments ↔ (plugin.named arguments).names.Nodup ∧
      (plugin.isVariadic = true ∨ plugin.surplus arguments = []) ∧
      ∀ parameter ∈ plugin.remaining arguments,
        (parameter.omitted (plugin.surplus arguments)).isSome = true :=
    ⟨fun h ↦ ⟨h.namedOnce, h.taken, h.given⟩, fun ⟨h, h', h''⟩ ↦ ⟨h, h', h''⟩⟩
  have hleft : ¬(plugin.isVariadic = true ∨ plugin.surplus arguments = []) ↔
      plugin.HasStranger arguments ∨ plugin.HasExcess arguments := by
    rw [HasStranger, HasExcess, not_or, Bool.not_eq_true, ← and_or_left]
    exact and_congr_right fun hvariadic ↦ surplus_ne_nil_iff hvariadic
  have hlacks : (¬∀ parameter ∈ plugin.remaining arguments,
      (parameter.omitted (plugin.surplus arguments)).isSome = true) ↔
        plugin.LacksOperand arguments := by
    simp only [LacksOperand, isSome_omitted, not_forall, Bool.not_eq_true', Bool.not_eq_false,
      exists_prop]
  rw [haccepts, not_and_or, not_and_or, hleft, hlacks, names_named, ← namesTwice_iff, or_assoc]

/-- A call is refused exactly if one of the four conditions holds, and always as malformed: for the
first argument that names a parameter again; else for the first one that nothing takes; else for the
first required parameter without an operand. -/
theorem bind_refusals (hplugin : plugin.IsWellFormed) {entries : List Entry}
    (hentries : ∀ entry ∈ entries, entry.argument?.isSome = true) :
    let arguments := entries.filterMap Entry.argument?
    ((∃ fault, plugin.bind entries = .error fault) ↔
      plugin.NamesTwice arguments ∨ plugin.HasStranger arguments ∨ plugin.HasExcess arguments ∨
        plugin.LacksOperand arguments) ∧
    ∀ fault, plugin.bind entries = .error fault ↔
      ∃ cause, plugin.fault? arguments = some cause ∧ fault = .malformed cause := by
  intro arguments
  have hbind : ∀ fault, plugin.bind entries = .error fault ↔
      ∃ cause, plugin.fault? arguments = some cause ∧ fault = .malformed cause := by
    intro fault
    rw [bind, Entry.toArguments_of_valid hentries, Outcome.ok_bind, bindArguments_eq hplugin]
    cases plugin.fault? arguments with
    | some cause => simp [eq_comm]
    | none => simp
  refine ⟨?_, hbind⟩
  rw [← not_accepts_iff, ← fault?_eq_none_iff, ← ne_eq, Option.ne_none_iff_exists']
  constructor
  · rintro ⟨fault, hfault⟩
    obtain ⟨cause, hcause, _⟩ := (hbind fault).mp hfault
    exact ⟨cause, hcause⟩
  · rintro ⟨cause, hcause⟩
    exact ⟨.malformed cause, (hbind _).mpr ⟨cause, hcause, rfl⟩⟩

/-- A parameter named again after a key that names nothing, with a required parameter left over. -/
theorem bind_refusals_several :
    let plugin : Plugin := {
      name := "show", family := "test"
      parameters := [⟨"a", none, false⟩, ⟨"b", none, false⟩, ⟨"c", none, false⟩]
      generate := fun _ _ ↦ .ok "" }
    let entries : List Entry := [.pair (some "b") "u", .pair (some "x") "v", .pair (some "b") "w"]
    plugin.IsWellFormed ∧ (∀ entry ∈ entries, entry.argument?.isSome = true) ∧
      plugin.bind entries = .error (.malformed (.repeatedParameter "show" "b")) := by
  intro plugin entries
  have hplugin : plugin.IsWellFormed := ⟨by decide, by decide⟩
  have hentries : ∀ entry ∈ entries, entry.argument?.isSome = true := by decide
  have hfault : plugin.fault? (entries.filterMap Entry.argument?) =
      some (.repeatedParameter "show" "b") := rfl
  exact ⟨hplugin, hentries, ((bind_refusals hplugin hentries).2 _).mpr ⟨_, hfault, rfl⟩⟩

end TemplateCalls.Plugin
