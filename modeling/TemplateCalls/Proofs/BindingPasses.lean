import Mathlib.Data.List.Nodup
import Mathlib.Data.List.Sigma
import TemplateCalls.Plugin
import TemplateCalls.Proofs.Outcome

/-!
# What arguments are bound to

A call is read as a whole here: which arguments name a parameter, which parameters are then free,
which arguments fill them in order, and which are left for the variadic parameter. The three passes
that bind a call refuse it for the first of three things that this reading finds wrong with it: a
parameter is named twice, an argument is left without a variadic parameter to take it, or a required
parameter goes without an operand. Any other call they bind as this reading says, in its order.

Parameters are taken to have distinct names, and at most one of them to be variadic.
-/

namespace TemplateCalls

namespace Bindings

/-! ## Bindings and their names -/

def names (bindings : Bindings) : List String := bindings.map (·.1)

@[simp]
theorem names_nil : names [] = [] := rfl

@[simp]
theorem names_append (first second : Bindings) :
    names (first ++ second) = names first ++ names second := List.map_append

@[simp]
theorem names_singleton (name : String) (operand : Operand) : names [(name, operand)] = [name] :=
  rfl

theorem contains_iff {bindings : Bindings} {name : String} :
    bindings.contains name = true ↔ name ∈ bindings.names := by
  simp only [contains, names, List.any_eq_true, beq_iff_eq, List.mem_map]

theorem contains_eq_false_iff {bindings : Bindings} {name : String} :
    bindings.contains name = false ↔ name ∉ bindings.names := by
  rw [← contains_iff, Bool.not_eq_true]

theorem contains_concat_of_ne {bindings : Bindings} {name other : String} (operand : Operand)
    (hne : other ≠ name) :
    Bindings.contains (bindings ++ [(name, operand)]) other = bindings.contains other := by
  rw [contains, List.any_append, List.any_cons, List.any_nil, Bool.or_false,
    beq_eq_false_iff_ne.mpr (Ne.symm hne), Bool.or_false, contains]

/-- A new name is put at the end. -/
theorem insert_eq_append {bindings : Bindings} {name : String} (operand : Operand)
    (hname : name ∉ bindings.names) :
    bindings.insert name operand = bindings ++ [(name, operand)] := by
  induction bindings with
  | nil => rfl
  | cons first rest ih =>
    simp only [names, List.map_cons, List.mem_cons, not_or] at hname
    have hfirst : (first.1 == name) = false := by
      rw [beq_eq_false_iff_ne]
      exact Ne.symm hname.1
    rw [insert, hfirst, ih hname.2]
    rfl

/-- Where no name is bound twice, a look-up finds what is bound. -/
theorem get?_eq_some_of_mem {bindings : Bindings} {name : String} {operand : Operand}
    (hnodup : bindings.names.Nodup) (hmem : (name, operand) ∈ bindings) :
    bindings.get? name = some operand := by
  induction bindings with
  | nil => cases hmem
  | cons first rest ih =>
    simp only [names, List.map_cons, List.nodup_cons, List.mem_map, not_exists, not_and] at hnodup
    rcases List.mem_cons.mp hmem with heq | hrest
    · rw [← heq, get?, List.find?_cons_of_pos (by simp)]
      rfl
    · have hne : ¬(first.1 == name) = true := by
        rw [beq_iff_eq]
        exact fun heq ↦ hnodup.1 _ hrest heq.symm
      rw [← ih hnodup.2 hrest, get?, get?, List.find?_cons_of_neg (by exact hne)]

end Bindings

/-! ## A list without the first few elements of a kind -/

section withoutFirst

variable {α β : Type}

/-- The list without the first elements that have a property, as many as are given. -/
def withoutFirst (property : α → Bool) : Nat → List α → List α
  | 0, items => items
  | _, [] => []
  | count + 1, item :: rest =>
    if property item then withoutFirst property count rest
    else item :: withoutFirst property (count + 1) rest

theorem withoutFirst_zero (property : α → Bool) (items : List α) :
    withoutFirst property 0 items = items := by
  rw [withoutFirst]

theorem withoutFirst_nil (property : α → Bool) (count : Nat) :
    withoutFirst property count [] = [] := by
  cases count <;> rfl

theorem withoutFirst_cons_of_not {property : α → Bool} {item : α} (count : Nat) (rest : List α)
    (hitem : property item = false) :
    withoutFirst property count (item :: rest) = item :: withoutFirst property count rest := by
  cases count with
  | zero => rw [withoutFirst_zero, withoutFirst_zero]
  | succ count => rw [withoutFirst, hitem, if_neg Bool.false_ne_true]

theorem withoutFirst_map (property : β → Bool) (f : α → β) (count : Nat) (items : List α) :
    withoutFirst property count (items.map f) =
      (withoutFirst (fun item ↦ property (f item)) count items).map f := by
  induction items generalizing count with
  | nil => rw [List.map_nil, withoutFirst_nil, withoutFirst_nil, List.map_nil]
  | cons item rest ih =>
    cases count with
    | zero => rw [withoutFirst_zero, withoutFirst_zero]
    | succ count =>
      rw [List.map_cons, withoutFirst, withoutFirst]
      cases property (f item) with
      | false => exact congrArg (f item :: ·) (ih (count + 1))
      | true => exact ih count

/-- Where all elements are distinct, the first ones with a property can be told by membership. -/
theorem filter_not_contains_take [BEq α] [LawfulBEq α] (property : α → Bool) (count : Nat)
    {items : List α} (hnodup : items.Nodup) :
    (items.filter fun item ↦ !((items.filter property).take count).contains item) =
      withoutFirst property count items := by
  induction items generalizing count with
  | nil => rw [withoutFirst_nil, List.filter_nil]
  | cons item rest ih =>
    obtain ⟨hitem, hrest⟩ := List.nodup_cons.mp hnodup
    cases hproperty : property item with
    | false =>
      have hkept : item ∉ (rest.filter property).take count :=
        fun hmem ↦ hitem (List.mem_of_mem_filter (List.mem_of_mem_take hmem))
      have hfilter : (item :: rest).filter property = rest.filter property :=
        List.filter_cons_of_neg (by rw [hproperty]; exact Bool.false_ne_true)
      rw [hfilter, List.filter_cons_of_pos (by simpa using hkept),
        withoutFirst_cons_of_not count rest hproperty, ih count hrest]
    | true =>
      cases count with
      | zero => simp [withoutFirst_zero]
      | succ count =>
        have hne : ∀ other ∈ rest, (other == item) = false :=
          fun other hother ↦ beq_eq_false_iff_ne.mpr fun heq ↦ hitem (heq ▸ hother)
        rw [withoutFirst, if_pos hproperty, ← ih count hrest, List.filter_cons_of_pos hproperty,
          List.take_succ_cons, List.filter_cons_of_neg (by simp)]
        refine List.filter_congr fun other hother ↦ ?_
        rw [List.contains_cons, hne other hother, Bool.false_or]

/-- What is left and what is taken away make up the list. -/
theorem perm_take_filter_append_withoutFirst (property : α → Bool) (count : Nat)
    (items : List α) :
    items.Perm ((items.filter property).take count ++ withoutFirst property count items) := by
  induction items generalizing count with
  | nil => rw [withoutFirst_nil, List.filter_nil, List.take_nil, List.append_nil]
  | cons item rest ih =>
    cases hproperty : property item with
    | false =>
      rw [withoutFirst_cons_of_not count rest hproperty,
        List.filter_cons_of_neg (by rw [hproperty]; exact Bool.false_ne_true)]
      exact ((ih count).cons item).trans List.perm_middle.symm
    | true =>
      cases count with
      | zero => rw [withoutFirst_zero, List.take_zero, List.nil_append]
      | succ count =>
        rw [withoutFirst, if_pos hproperty, List.filter_cons_of_pos hproperty,
          List.take_succ_cons, List.cons_append]
        exact (ih count).cons item

end withoutFirst

/-! ## A call as a whole -/

/-- What is bound to a parameter that no argument names or fills. -/
def Parameter.omitted (parameter : Parameter) (collected : List Argument) : Option Operand :=
  if parameter.variadic then some (.rest (collected.map .argument))
  else parameter.default.map .single

namespace Plugin

/-- Parameters are told apart by their names, and at most one of them is variadic. -/
structure IsWellFormed (plugin : Plugin) : Prop where
  distinctNames : (plugin.parameters.map (·.name)).Nodup
  oneVariadic : (plugin.parameters.filter (·.variadic)).length ≤ 1

/-- Whether an argument stands for the next free parameter. -/
def isOrdered (argument : Argument) : Bool :=
  argument.kind == .positional || argument.kind == .index

def named (plugin : Plugin) (arguments : List Argument) : Bindings :=
  arguments.filterMap fun argument ↦
    (plugin.namedParameter? argument).map fun name ↦ (name, .single argument.value)

def unnamed (plugin : Plugin) (arguments : List Argument) : List Argument :=
  arguments.filter fun argument ↦ (plugin.namedParameter? argument).isNone

/-- The parameters for one operand that no argument names. -/
def free (plugin : Plugin) (arguments : List Argument) : List Parameter :=
  plugin.singleParameters.filter fun parameter ↦ !(plugin.named arguments).contains parameter.name

def fill (free : List Parameter) (ordered : List Argument) : Bindings :=
  List.zipWith (fun parameter argument ↦ (parameter.name, .single argument.value)) free ordered

/-- What the free parameters are bound to, as far as there are arguments for them. -/
def filled (plugin : Plugin) (arguments : List Argument) : Bindings :=
  fill (plugin.free arguments) (arguments.filter isOrdered)

/-- The arguments that neither name a parameter nor fill one, in the order of the call. Arguments
are told apart by their places. -/
def surplus (plugin : Plugin) (arguments : List Argument) : List Argument :=
  let placed := arguments.zipIdx
  let filling := (placed.filter fun item ↦ isOrdered item.1).take (plugin.free arguments).length
  (placed.filter fun item ↦
    (plugin.namedParameter? item.1).isNone && !filling.contains item).map (·.1)

/-- The parameters that no argument names or fills. -/
def remaining (plugin : Plugin) (arguments : List Argument) : List Parameter :=
  plugin.parameters.filter fun parameter ↦
    !(plugin.named arguments ++ plugin.filled arguments).contains parameter.name

/-- What the parameters that are left over are bound to, in their order. -/
def completion (collected : List Argument) (parameters : List Parameter) : Bindings :=
  parameters.filterMap fun parameter ↦
    (parameter.omitted collected).map fun operand ↦ (parameter.name, operand)

/-- What a call is bound to, in the order of binding. -/
def reading (plugin : Plugin) (arguments : List Argument) : Bindings :=
  plugin.named arguments ++ plugin.filled arguments
    ++ completion (plugin.surplus arguments) (plugin.remaining arguments)

/-- What a call must meet to be bound. -/
structure Accepts (plugin : Plugin) (arguments : List Argument) : Prop where
  namedOnce : (plugin.named arguments).names.Nodup
  taken : plugin.isVariadic = true ∨ plugin.surplus arguments = []
  given : ∀ parameter ∈ plugin.remaining arguments,
    (parameter.omitted (plugin.surplus arguments)).isSome = true

/-- The first of some names that stands before its place, too, among earlier names or these. -/
def repeatedAfter? (earlier names : List String) : Option String :=
  ((names.zipIdx earlier.length).find? fun item ↦
    ((earlier ++ names).take item.2).contains item.1).map (·.1)

def untaken (plugin : Plugin) (argument : Argument) : Malformed :=
  if isOrdered argument then .tooManyArguments plugin.name plugin.singleParameters.length
  else .unknownParameter plugin.name argument.key

/-- What a call is refused for: the first argument that names a parameter again; else the first
argument that no parameter takes; else the first required parameter without an operand. -/
def fault? (plugin : Plugin) (arguments : List Argument) : Option Malformed :=
  ((repeatedAfter? [] (arguments.filterMap plugin.namedParameter?)).map
      (.repeatedParameter plugin.name)).or
    (((if plugin.isVariadic then none else (plugin.surplus arguments).head?).map plugin.untaken).or
      (((plugin.remaining arguments).find? (·.isRequired)).map fun parameter ↦
        .missingParameter plugin.name parameter.name))

variable {plugin : Plugin}

/-! ## The three passes -/

theorem repeatedAfter?_nil (earlier : List String) : repeatedAfter? earlier [] = none := rfl

/-- The first name that an earlier one equals is the one that is repeated. -/
theorem repeatedAfter?_cons (earlier : List String) (name : String) (rest : List String) :
    repeatedAfter? earlier (name :: rest) =
      if name ∈ earlier then some name else repeatedAfter? (earlier ++ [name]) rest := by
  have hbefore : (earlier ++ name :: rest).take earlier.length = earlier := List.take_left
  have hlength : (earlier ++ [name]).length = earlier.length + 1 := List.length_append
  rw [repeatedAfter?, List.zipIdx_cons, List.find?_cons, hbefore]
  by_cases hname : name ∈ earlier
  · rw [if_pos hname, List.contains_iff_mem.mpr hname]
    rfl
  · rw [if_neg hname, Bool.eq_false_iff.mpr fun h ↦ hname (List.contains_iff_mem.mp h),
      repeatedAfter?, hlength, ← List.append_cons]

/-- Nothing is found exactly if no name stands twice. -/
theorem repeatedAfter?_eq_none_iff {earlier names : List String} (hearlier : earlier.Nodup) :
    repeatedAfter? earlier names = none ↔ (earlier ++ names).Nodup := by
  induction names generalizing earlier with
  | nil => simp [repeatedAfter?_nil, hearlier]
  | cons name rest ih =>
    rw [repeatedAfter?_cons, List.append_cons earlier name rest]
    by_cases hname : name ∈ earlier
    · rw [if_pos hname]
      refine ⟨nofun, fun hnodup ↦ ?_⟩
      have hconcat := (List.nodup_append.mp hnodup).1
      exact absurd rfl ((List.nodup_append.mp hconcat).2.2 name hname name List.mem_cons_self)
    · have hconcat : (earlier ++ [name]).Nodup := by
        rw [List.nodup_append_comm, List.singleton_append, List.nodup_cons]
        exact ⟨hname, hearlier⟩
      rw [if_neg hname, ih hconcat]

theorem named_cons_of_none {argument : Argument} (rest : List Argument)
    (hname : plugin.namedParameter? argument = none) :
    plugin.named (argument :: rest) = plugin.named rest :=
  List.filterMap_cons_none (by rw [hname]; rfl)

theorem named_cons_of_some {argument : Argument} {name : String} (rest : List Argument)
    (hname : plugin.namedParameter? argument = some name) :
    plugin.named (argument :: rest) = (name, .single argument.value) :: plugin.named rest :=
  List.filterMap_cons_some (by rw [hname]; rfl)

theorem unnamed_cons_of_none {argument : Argument} (rest : List Argument)
    (hname : plugin.namedParameter? argument = none) :
    plugin.unnamed (argument :: rest) = argument :: plugin.unnamed rest :=
  List.filter_cons_of_pos (by rw [hname]; rfl)

theorem unnamed_cons_of_some {argument : Argument} {name : String} (rest : List Argument)
    (hname : plugin.namedParameter? argument = some name) :
    plugin.unnamed (argument :: rest) = plugin.unnamed rest :=
  List.filter_cons_of_neg (by rw [hname]; exact Bool.false_ne_true)

/-- The first pass, where some names are bound already. -/
theorem bindNamed_eq (bindings : Bindings) (arguments : List Argument) :
    plugin.bindNamed bindings arguments =
      match repeatedAfter? bindings.names (arguments.filterMap plugin.namedParameter?) with
      | some name => .error (.malformed (.repeatedParameter plugin.name name))
      | none => .ok (bindings ++ plugin.named arguments, plugin.unnamed arguments) := by
  induction arguments generalizing bindings with
  | nil => simp [bindNamed, named, unnamed, repeatedAfter?_nil]
  | cons argument rest ih =>
    rw [bindNamed]
    cases hname : plugin.namedParameter? argument with
    | none =>
      rw [List.filterMap_cons_none hname, named_cons_of_none rest hname,
        unnamed_cons_of_none rest hname]
      dsimp only
      rw [ih]
      cases repeatedAfter? bindings.names (rest.filterMap plugin.namedParameter?) <;> rfl
    | some name =>
      rw [List.filterMap_cons_some hname, named_cons_of_some rest hname,
        unnamed_cons_of_some rest hname, List.append_cons bindings, repeatedAfter?_cons]
      dsimp only
      by_cases hbound : name ∈ bindings.names
      · rw [if_pos (Bindings.contains_iff.mpr hbound), if_pos hbound]
      · rw [if_neg (fun h ↦ hbound (Bindings.contains_iff.mp h)), if_neg hbound,
          Bindings.insert_eq_append _ hbound, ih, Bindings.names_append, Bindings.names_singleton]

theorem isOrdered_eq_not (argument : Argument) :
    isOrdered argument = !(argument.kind == .literal || argument.kind == .computed) := by
  unfold isOrdered
  cases argument.kind <;> rfl

/-- An argument without a name fills the next free parameter. -/
theorem fillFree_of_ordered {argument : Argument} (parameter : Parameter) (free : List Parameter)
    (bindings : Bindings) (rest : List Argument) (hordered : isOrdered argument = true) :
    plugin.fillFree (parameter :: free) bindings (argument :: rest) =
      plugin.fillFree free (bindings.insert parameter.name (.single argument.value)) rest := by
  rw [isOrdered_eq_not, Bool.not_eq_true'] at hordered
  rw [fillFree, hordered, if_neg Bool.false_ne_true]

/-- Any other argument is left for the variadic parameter. -/
theorem fillFree_of_variadic {argument : Argument} {free : List Parameter} (bindings : Bindings)
    (rest : List Argument) (hleft : isOrdered argument = false ∨ free = [])
    (hvariadic : plugin.isVariadic = true) :
    plugin.fillFree free bindings (argument :: rest) =
      (do
        let (bound, collected) ← plugin.fillFree free bindings rest
        return (bound, argument :: collected)) := by
  rw [isOrdered_eq_not, Bool.not_eq_false'] at hleft
  cases free with
  | nil => simp only [fillFree, hvariadic, if_true, ite_self]
  | cons parameter free =>
    have hkeyed := hleft.resolve_right (List.cons_ne_nil parameter free)
    rw [fillFree, hkeyed, if_pos rfl, if_pos hvariadic]

/-- Without a variadic parameter nothing may be left. -/
theorem fillFree_of_not_variadic {argument : Argument} {free : List Parameter}
    (bindings : Bindings) (rest : List Argument) (hleft : isOrdered argument = false ∨ free = [])
    (hvariadic : plugin.isVariadic = false)
    (hcapacity : plugin.capacity = plugin.singleParameters.length) :
    plugin.fillFree free bindings (argument :: rest) =
      .error (.malformed (plugin.untaken argument)) := by
  rw [untaken, ← hcapacity, isOrdered_eq_not]
  rw [isOrdered_eq_not, Bool.not_eq_false'] at hleft
  cases free with
  | nil =>
    rw [fillFree, hvariadic]
    cases argument.kind == .literal || argument.kind == .computed <;> rfl
  | cons parameter free =>
    have hkeyed := hleft.resolve_right (List.cons_ne_nil parameter free)
    rw [fillFree, hkeyed, hvariadic]
    rfl

theorem withoutFirst_of_left {argument : Argument} {free : List Parameter} (rest : List Argument)
    (hleft : isOrdered argument = false ∨ free = []) :
    withoutFirst isOrdered free.length (argument :: rest) =
      argument :: withoutFirst isOrdered free.length rest := by
  rcases hleft with hkeyed | rfl
  · exact withoutFirst_cons_of_not free.length rest hkeyed
  · rw [List.length_nil, withoutFirst_zero, withoutFirst_zero]

/-- An argument that is not bound in order, or that meets no free parameter, fills none. -/
theorem fill_of_left {argument : Argument} {free : List Parameter} (rest : List Argument)
    (hleft : isOrdered argument = false ∨ free = []) :
    fill free ((argument :: rest).filter isOrdered) = fill free (rest.filter isOrdered) := by
  rcases hleft with hkeyed | rfl
  · rw [List.filter_cons_of_neg (by rw [hkeyed]; exact Bool.false_ne_true)]
  · rfl

theorem fill_cons (parameter : Parameter) (free : List Parameter) (argument : Argument)
    (ordered : List Argument) :
    fill (parameter :: free) (argument :: ordered) =
      (parameter.name, .single argument.value) :: fill free ordered := rfl

/-- The second pass, where none of the free parameters is bound yet. -/
theorem fillFree_eq {free : List Parameter} {bindings : Bindings} (arguments : List Argument)
    (hcapacity : plugin.capacity = plugin.singleParameters.length)
    (hfree : (free.map (·.name)).Nodup)
    (hunbound : ∀ parameter ∈ free, parameter.name ∉ bindings.names) :
    plugin.fillFree free bindings arguments =
      match if plugin.isVariadic then none
        else (withoutFirst isOrdered free.length arguments).head? with
      | some argument => .error (.malformed (plugin.untaken argument))
      | none => .ok (bindings ++ fill free (arguments.filter isOrdered),
          withoutFirst isOrdered free.length arguments) := by
  induction arguments generalizing free bindings with
  | nil =>
    rw [fillFree, withoutFirst_nil, List.filter_nil, fill, List.zipWith_nil_right,
      List.append_nil, List.head?_nil, ite_self]
  | cons argument rest ih =>
    by_cases hleft : isOrdered argument = false ∨ free = []
    · rw [withoutFirst_of_left rest hleft, fill_of_left rest hleft]
      cases hvariadic : plugin.isVariadic with
      | true =>
        rw [fillFree_of_variadic bindings rest hleft hvariadic, ih hfree hunbound, hvariadic]
        rfl
      | false => exact fillFree_of_not_variadic bindings rest hleft hvariadic hcapacity
    · rw [not_or, Bool.not_eq_false] at hleft
      obtain ⟨hordered, hnonempty⟩ := hleft
      obtain ⟨parameter, free, rfl⟩ := List.exists_cons_of_ne_nil hnonempty
      rw [List.map_cons, List.nodup_cons] at hfree
      have hparameter := hunbound parameter List.mem_cons_self
      have hunbound' : ∀ other ∈ free, other.name ∉
          (bindings ++ [(parameter.name, .single argument.value)] : Bindings).names := by
        intro other hother
        rw [Bindings.names_append, Bindings.names_singleton, List.mem_append, List.mem_singleton,
          not_or]
        refine ⟨hunbound other (List.mem_cons_of_mem parameter hother), fun heq ↦ hfree.1 ?_⟩
        rw [← heq]
        exact List.mem_map_of_mem hother
      rw [fillFree_of_ordered parameter free bindings rest hordered,
        Bindings.insert_eq_append _ hparameter, ih hfree.2 hunbound', List.length_cons,
        withoutFirst, if_pos hordered, List.filter_cons_of_pos hordered, fill_cons,
        ← List.append_cons]

theorem isSome_omitted (parameter : Parameter) (collected : List Argument) :
    (parameter.omitted collected).isSome = !parameter.isRequired := by
  unfold Parameter.omitted Parameter.isRequired
  cases parameter.variadic <;> cases parameter.default <;> rfl

/-- An unbound parameter takes what stands for it, and is missed if nothing does. -/
theorem complete_of_unbound {parameter : Parameter} {bindings : Bindings}
    (collected : List Argument) (rest : List Parameter) (hname : parameter.name ∉ bindings.names) :
    plugin.complete collected bindings (parameter :: rest) =
      match parameter.omitted collected with
      | some operand => plugin.complete collected (bindings ++ [(parameter.name, operand)]) rest
      | none => .error (.malformed (.missingParameter plugin.name parameter.name)) := by
  have hcontains : bindings.contains parameter.name = false :=
    Bindings.contains_eq_false_iff.mpr hname
  rw [complete, Parameter.omitted, hcontains]
  cases hvariadic : parameter.variadic with
  | true => simp only [if_true, Bindings.insert_eq_append _ hname]
  | false =>
    cases hdefault : parameter.default with
    | none => rfl
    | some source =>
      simp only [Bool.false_eq_true, if_false, Option.map_some, Bindings.insert_eq_append _ hname]

/-- The third pass, where the variadic parameters are not bound yet. -/
theorem complete_eq (collected : List Argument) {bindings : Bindings} {parameters : List Parameter}
    (hdistinct : (parameters.map (·.name)).Nodup)
    (hvariadic : ∀ parameter ∈ parameters,
      parameter.variadic = true → parameter.name ∉ bindings.names) :
    plugin.complete collected bindings parameters =
      match (parameters.filter fun parameter ↦ !bindings.contains parameter.name).find?
        (·.isRequired) with
      | some parameter => .error (.malformed (.missingParameter plugin.name parameter.name))
      | none => .ok (bindings ++ completion collected
          (parameters.filter fun parameter ↦ !bindings.contains parameter.name)) := by
  induction parameters generalizing bindings with
  | nil => simp [complete, completion]
  | cons parameter rest ih =>
    rw [List.map_cons, List.nodup_cons] at hdistinct
    have hrest : ∀ other ∈ rest, other.variadic = true → other.name ∉ bindings.names :=
      fun other hother ↦ hvariadic other (List.mem_cons_of_mem parameter hother)
    by_cases hname : parameter.name ∈ bindings.names
    · have hcontains := Bindings.contains_iff.mpr hname
      have hsingle : ¬parameter.variadic = true :=
        fun h ↦ hvariadic parameter List.mem_cons_self h hname
      rw [complete, if_neg hsingle, if_pos hcontains, ih hdistinct.2 hrest,
        List.filter_cons_of_neg (by rw [hcontains]; exact Bool.false_ne_true)]
    · have hcontains := Bindings.contains_eq_false_iff.mpr hname
      rw [complete_of_unbound collected rest hname,
        List.filter_cons_of_pos (by rw [hcontains]; rfl)]
      have hrequired := isSome_omitted parameter collected
      rw [List.find?_cons]
      cases homitted : parameter.omitted collected with
      | none =>
        rw [homitted, Option.isSome_none, Bool.false_eq, Bool.not_eq_false'] at hrequired
        rw [hrequired]
      | some operand =>
        rw [homitted, Option.isSome_some, Bool.true_eq, Bool.not_eq_true'] at hrequired
        have hne : ∀ other ∈ rest, other.name ≠ parameter.name :=
          fun other hother heq ↦ hdistinct.1 (heq ▸ List.mem_map_of_mem hother)
        have hrest' : ∀ other ∈ rest, other.variadic = true →
            other.name ∉ (bindings ++ [(parameter.name, operand)] : Bindings).names := by
          intro other hother h
          rw [← Bindings.contains_eq_false_iff,
            Bindings.contains_concat_of_ne operand (hne other hother)]
          exact Bindings.contains_eq_false_iff.mpr (hrest other hother h)
        have hfilter : (rest.filter fun other ↦
              !Bindings.contains (bindings ++ [(parameter.name, operand)]) other.name) =
            rest.filter fun other ↦ !bindings.contains other.name :=
          List.filter_congr fun other hother ↦ by
            rw [Bindings.contains_concat_of_ne operand (hne other hother)]
        have hcompletion : ∀ others, completion collected (parameter :: others) =
            (parameter.name, operand) :: completion collected others :=
          fun others ↦ List.filterMap_cons_some (by rw [homitted]; rfl)
        dsimp only
        rw [hrequired, ih hdistinct.2 hrest', hfilter, hcompletion, ← List.append_cons]

/-! ## The passes together -/

theorem isNone_of_isOrdered {argument : Argument} (hordered : isOrdered argument = true) :
    (plugin.namedParameter? argument).isNone = true := by
  unfold isOrdered at hordered
  unfold namedParameter?
  cases hkind : argument.kind with
  | literal =>
    rw [hkind] at hordered
    cases hordered
  | positional | index | computed => rfl

/-- No argument that is bound in order names a parameter. -/
theorem filter_isOrdered_unnamed (plugin : Plugin) (arguments : List Argument) :
    (plugin.unnamed arguments).filter isOrdered = arguments.filter isOrdered := by
  rw [unnamed, List.filter_filter]
  refine List.filter_congr fun argument _ ↦ ?_
  cases hordered : isOrdered argument with
  | false => rfl
  | true => rw [isNone_of_isOrdered hordered, Bool.and_self]

/-- The surplus without the places of the arguments. -/
theorem surplus_eq_withoutFirst (plugin : Plugin) (arguments : List Argument) :
    plugin.surplus arguments =
      withoutFirst isOrdered (plugin.free arguments).length (plugin.unnamed arguments) := by
  let unnamedAt := fun item : Argument × Nat ↦ (plugin.namedParameter? item.1).isNone
  let orderedAt := fun item : Argument × Nat ↦ isOrdered item.1
  let placed := arguments.zipIdx
  have hfilling : placed.filter orderedAt = (placed.filter unnamedAt).filter orderedAt := by
    rw [List.filter_filter]
    refine List.filter_congr fun item _ ↦ ?_
    cases hordered : orderedAt item with
    | false => rfl
    | true => rw [show unnamedAt item = true from isNone_of_isOrdered hordered, Bool.and_self]
  have hnodup : (placed.filter unnamedAt).Nodup :=
    (List.Nodup.of_map Prod.snd (List.nodup_zipIdx_map_snd arguments)).filter _
  have hunnamed : (placed.filter unnamedAt).map Prod.fst = plugin.unnamed arguments := by
    have hfst := List.filter_map (p := fun argument ↦ (plugin.namedParameter? argument).isNone)
      (f := Prod.fst) (l := placed)
    rw [List.zipIdx_map_fst] at hfst
    exact hfst.symm
  calc
    plugin.surplus arguments =
        ((placed.filter unnamedAt).filter fun item ↦
          !(((placed.filter unnamedAt).filter orderedAt).take
            (plugin.free arguments).length).contains item).map Prod.fst := by
      rw [← hfilling, List.filter_filter]
      simp only [surplus, Bool.and_comm]
      rfl
    _ = (withoutFirst orderedAt (plugin.free arguments).length
          (placed.filter unnamedAt)).map Prod.fst := by
      rw [filter_not_contains_take orderedAt _ hnodup]
    _ = _ := by rw [← withoutFirst_map, hunnamed]

theorem distinct_singleParameters (hplugin : plugin.IsWellFormed) :
    (plugin.singleParameters.map (·.name)).Nodup :=
  hplugin.distinctNames.sublist (List.filter_sublist.map _)

/-- Only a literal argument names a parameter, and only one that is not variadic. -/
theorem namedParameter?_eq_some_iff {argument : Argument} {name : String} :
    plugin.namedParameter? argument = some name ↔
      argument.kind = .literal ∧ argument.key = some name ∧
        ∃ parameter ∈ plugin.singleParameters, parameter.name = name := by
  unfold namedParameter?
  cases argument.kind with
  | positional | index | computed => simp
  | literal =>
    cases argument.key with
    | none => simp
    | some key =>
      simp only [List.any_eq_true, beq_iff_eq, Option.ite_none_right_eq_some, Option.some.injEq,
        true_and]
      constructor
      · rintro ⟨hparameter, rfl⟩
        exact ⟨rfl, hparameter⟩
      · rintro ⟨rfl, hparameter⟩
        exact ⟨hparameter, rfl⟩

theorem mem_names_named_iff {arguments : List Argument} {name : String} :
    name ∈ (plugin.named arguments).names ↔
      ∃ argument ∈ arguments, plugin.namedParameter? argument = some name := by
  simp only [Bindings.names, named, List.mem_map, List.mem_filterMap, Option.map_eq_some_iff]
  constructor
  · rintro ⟨_, ⟨argument, hargument, _, hname, rfl⟩, rfl⟩
    exact ⟨argument, hargument, hname⟩
  · rintro ⟨argument, hargument, hname⟩
    exact ⟨_, ⟨argument, hargument, name, hname, rfl⟩, rfl⟩

/-- As many free parameters are filled as there are arguments in order, the first ones first. -/
theorem names_fill (free : List Parameter) (ordered : List Argument) :
    (fill free ordered).names = (free.map (·.name)).take ordered.length := by
  induction free generalizing ordered with
  | nil => simp [fill]
  | cons parameter free ih =>
    cases ordered with
    | nil => rfl
    | cons argument ordered =>
      rw [fill_cons, List.map_cons, List.length_cons, List.take_succ_cons, ← ih ordered]
      rfl

theorem not_variadic_of_mem_singleParameters {parameter : Parameter}
    (hparameter : parameter ∈ plugin.singleParameters) : parameter.variadic = false := by
  simpa only [Bool.not_eq_true'] using (List.mem_filter.mp hparameter).2

/-- The parameters of a well-formed plugin are told apart by their names. -/
theorem eq_of_name_eq (hplugin : plugin.IsWellFormed) {first second : Parameter}
    (hfirst : first ∈ plugin.parameters) (hsecond : second ∈ plugin.parameters)
    (hname : first.name = second.name) : first = second :=
  List.inj_on_of_nodup_map hplugin.distinctNames hfirst hsecond hname

theorem mem_singleParameters_of_mem_free {arguments : List Argument} {parameter : Parameter}
    (hparameter : parameter ∈ plugin.free arguments) : parameter ∈ plugin.singleParameters :=
  List.mem_of_mem_filter hparameter

theorem nodup_names_free (hplugin : plugin.IsWellFormed) (arguments : List Argument) :
    ((plugin.free arguments).map (·.name)).Nodup :=
  (distinct_singleParameters hplugin).sublist (List.filter_sublist.map _)

theorem unbound_of_mem_free {arguments : List Argument} {parameter : Parameter}
    (hparameter : parameter ∈ plugin.free arguments) :
    parameter.name ∉ (plugin.named arguments).names := by
  rw [← Bindings.contains_eq_false_iff]
  simpa only [Bool.not_eq_true'] using (List.mem_filter.mp hparameter).2

/-- The names that the first two passes bind are those of parameters for one operand. -/
theorem mem_singleParameters_of_bound {arguments : List Argument} {name : String}
    (hname : name ∈ (plugin.named arguments ++ plugin.filled arguments : Bindings).names) :
    ∃ parameter ∈ plugin.singleParameters, parameter.name = name := by
  rw [Bindings.names_append, List.mem_append] at hname
  rcases hname with hnamed | hfilled
  · obtain ⟨argument, _, hargument⟩ := mem_names_named_iff.mp hnamed
    exact (namedParameter?_eq_some_iff.mp hargument).2.2
  · rw [filled, names_fill] at hfilled
    obtain ⟨parameter, hparameter, hname⟩ := List.mem_map.mp (List.mem_of_mem_take hfilled)
    exact ⟨parameter, mem_singleParameters_of_mem_free hparameter, hname⟩

/-- The first two passes leave a variadic parameter to the third. -/
theorem variadic_unbound (hplugin : plugin.IsWellFormed) (arguments : List Argument)
    {parameter : Parameter} (hparameter : parameter ∈ plugin.parameters)
    (hvariadic : parameter.variadic = true) :
    parameter.name ∉ (plugin.named arguments ++ plugin.filled arguments : Bindings).names := by
  intro hname
  obtain ⟨single, hsingle, hsame⟩ := mem_singleParameters_of_bound hname
  have heq := eq_of_name_eq hplugin (List.mem_of_mem_filter hsingle) hparameter hsame
  have hnot := not_variadic_of_mem_singleParameters hsingle
  rw [heq, hvariadic] at hnot
  cases hnot

theorem eraseDups_of_nodup {names : List String} (hnodup : names.Nodup) :
    names.eraseDups = names := by
  induction names with
  | nil => rfl
  | cons name rest ih =>
    obtain ⟨hname, hrest⟩ := List.nodup_cons.mp hnodup
    have hfilter : rest.filter (fun other ↦ !other == name) = rest := by
      refine List.filter_eq_self.mpr fun other hother ↦ ?_
      rw [Bool.not_eq_true', beq_eq_false_iff_ne]
      rintro rfl
      exact hname hother
    rw [List.eraseDups_cons, hfilter, ih hrest]

/-- A well-formed plugin has room for one argument in each parameter that is not variadic. -/
theorem capacity_eq (hplugin : plugin.IsWellFormed) :
    plugin.capacity = plugin.singleParameters.length := by
  rw [capacity, eraseDups_of_nodup (distinct_singleParameters hplugin), List.length_map]

/-- A call is refused for what is wrong with it as a whole, or bound as it reads. -/
theorem bindArguments_eq (hplugin : plugin.IsWellFormed) (arguments : List Argument) :
    plugin.bindArguments arguments =
      match plugin.fault? arguments with
      | some cause => .error (.malformed cause)
      | none => .ok (plugin.reading arguments) := by
  have hfill := fillFree_eq (plugin.unnamed arguments) (capacity_eq hplugin)
    (nodup_names_free hplugin arguments) fun _ ↦ unbound_of_mem_free
  rw [filter_isOrdered_unnamed, ← surplus_eq_withoutFirst] at hfill
  have hcomplete : plugin.complete (plugin.surplus arguments)
      (plugin.named arguments ++ plugin.filled arguments) plugin.parameters =
        match (plugin.remaining arguments).find? (·.isRequired) with
        | some parameter => .error (.malformed (.missingParameter plugin.name parameter.name))
        | none => .ok (plugin.reading arguments) :=
    complete_eq _ hplugin.distinctNames fun _ ↦ variadic_unbound hplugin arguments
  have hfree : (plugin.singleParameters.filter fun parameter ↦
      !(plugin.named arguments).contains parameter.name) = plugin.free arguments := rfl
  rw [bindArguments, bindNamed_eq, fault?, Bindings.names_nil]
  cases repeatedAfter? [] (arguments.filterMap plugin.namedParameter?) with
  | some name => rfl
  | none =>
    rw [Outcome.ok_bind]
    dsimp only
    rw [List.nil_append, hfree, hfill]
    cases if plugin.isVariadic then none else (plugin.surplus arguments).head? with
    | some argument => rfl
    | none =>
      rw [Outcome.ok_bind]
      dsimp only
      rw [← filled, hcomplete]
      cases (plugin.remaining arguments).find? (·.isRequired) <;> rfl

theorem names_named (plugin : Plugin) (arguments : List Argument) :
    (plugin.named arguments).names = arguments.filterMap plugin.namedParameter? := by
  rw [Bindings.names, named, List.map_filterMap]
  refine List.filterMap_congr fun argument _ ↦ ?_
  cases plugin.namedParameter? argument <;> rfl

/-- Nothing is wrong with a call exactly if it meets the three conditions. -/
theorem fault?_eq_none_iff (plugin : Plugin) (arguments : List Argument) :
    plugin.fault? arguments = none ↔ plugin.Accepts arguments := by
  have hnamed : repeatedAfter? [] (arguments.filterMap plugin.namedParameter?) = none ↔
      (plugin.named arguments).names.Nodup := by
    rw [repeatedAfter?_eq_none_iff List.nodup_nil, List.nil_append, names_named]
  have htaken : (if plugin.isVariadic then none else (plugin.surplus arguments).head?) = none ↔
      plugin.isVariadic = true ∨ plugin.surplus arguments = [] := by
    cases plugin.isVariadic <;> simp
  have hgiven : (plugin.remaining arguments).find? (·.isRequired) = none ↔
      ∀ parameter ∈ plugin.remaining arguments,
        (parameter.omitted (plugin.surplus arguments)).isSome = true := by
    simp only [List.find?_eq_none, isSome_omitted, Bool.not_eq_true, Bool.not_eq_true']
  simp only [fault?, Option.or_eq_none_iff, Option.map_eq_none_iff, hnamed, htaken, hgiven]
  exact ⟨fun ⟨h, h', h''⟩ ↦ ⟨h, h', h''⟩, fun ⟨h, h', h''⟩ ↦ ⟨h, h', h''⟩⟩

/-- A call is bound exactly if it meets the three conditions, and then as it reads. -/
theorem bindArguments_eq_ok_iff (hplugin : plugin.IsWellFormed) {arguments : List Argument}
    {bindings : Bindings} :
    plugin.bindArguments arguments = .ok bindings ↔
      plugin.Accepts arguments ∧ bindings = plugin.reading arguments := by
  rw [bindArguments_eq hplugin, ← fault?_eq_none_iff]
  cases plugin.fault? arguments with
  | some cause => exact ⟨nofun, nofun⟩
  | none => simp only [Except.ok.injEq, true_and, eq_comm]

end Plugin

end TemplateCalls
