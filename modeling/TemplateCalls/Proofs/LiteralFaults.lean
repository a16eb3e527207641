import TemplateCalls.Proofs.IndexAssignment

/-!
# Why a literal is refused

The arguments of a literal are looked at in order, and the first one that is at fault decides. An
argument is at fault if its key does not suit its kind, if the index that it gives has too many
digits to be read, or if the index that it is given has too many to be written. So a literal is
either refused for its first fault or written as its arguments describe it, whatever the size of the
indices.
-/

namespace TemplateCalls

open Outcome

namespace Expression

/-! ## The first fault -/

/-- The numeral of an argument that is too long, by the integer keys of all arguments before it: the
index that it gives, or the index that it is given. -/
def overflow? (earlier : List Nat) (argument : Argument) : Option Decimal.Overflow :=
  match argument.kind with
  | .positional => if nextAfter earlier < 10 ^ Decimal.digitLimit then none else some .writing
  | .index =>
    ((argument.key.map fun key ↦ key.toList.length).filter (Decimal.digitLimit < ·)).map .reading
  | _ => none

/-- What is wrong with an argument after others. -/
def faultOf? (earlier : List Nat) (argument : Argument) : Option Fault :=
  ((keyFault? argument).map .malformed).or ((overflow? earlier argument).map .numeral)

def firstFault? (earlier : List Nat) : List Argument → Option Fault
  | [] => none
  | argument :: rest =>
    (faultOf? earlier argument).or
      (firstFault? ((integerKey? earlier argument).toList ++ earlier) rest)

/-! ## One argument -/

variable {earlier : List Nat} {argument : Argument}

/-- An index of few enough digits to be read is small enough to be written. -/
theorem withinLimits_singleton (hfault : keyFault? argument = none)
    (hoverflow : overflow? earlier argument = none) : WithinLimits earlier [argument] where
  read := by
    intro other hother hkind key hkey _
    obtain rfl := List.mem_singleton.mp hother
    simpa [overflow?, hkind, hkey] using hoverflow
  written := by
    intro number hnumber
    obtain hinteger := (List.mem_singleton.mp hnumber).symm
    cases hkind : argument.kind with
    | positional =>
      rw [integerKey?, if_pos hkind, Option.some.injEq] at hinteger
      simpa [overflow?, hkind, hinteger] using hoverflow
    | index =>
      obtain ⟨key, hkey, hindex⟩ := exists_index_of_sound hkind hfault
      have hlength : key.toList.length ≤ Decimal.digitLimit := by
        simpa [overflow?, hkind, hkey] using hoverflow
      have hvalue : number = Decimal.value key.toList := by
        simpa [integerKey?, explicitIndex?, hkind, hkey, Option.filter_some, hindex, eq_comm]
          using hinteger
      have hdigits : key.toList.all Char.isDigit = true := by
        rw [Argument.isIndexKey, Decimal.isNumeral, Bool.and_eq_true] at hindex
        exact hindex.2
      rw [hvalue]
      exact Decimal.value_lt_pow_digitLimit hdigits hlength
    | literal | computed => simp [integerKey?, explicitIndex?, hkind] at hinteger

theorem ofArgument_of_overflow {overflow : Decimal.Overflow} (hfault : keyFault? argument = none)
    (hoverflow : overflow? earlier argument = some overflow) :
    Item.ofArgument (nextAfter earlier) argument = .error (.numeral overflow) := by
  cases hkind : argument.kind with
  | positional =>
    simp only [overflow?, hkind, Option.ite_none_left_eq_some, Option.some.injEq] at hoverflow
    obtain ⟨hnumber, rfl⟩ := hoverflow
    simp only [Item.ofArgument, hkind, Decimal.write_eq_error hnumber, Except.mapError, error_bind]
  | index =>
    obtain ⟨key, hkey, hindex⟩ := exists_index_of_sound hkind hfault
    have hvalue : argument.indexValue = .error (.numeral overflow) := by
      simp only [overflow?, hkind, hkey, Option.map_some, Option.map_eq_some_iff,
        Option.filter_eq_some_iff, Option.some.injEq, decide_eq_true_eq] at hoverflow
      obtain ⟨_, ⟨rfl, hlength⟩, rfl⟩ := hoverflow
      rw [Argument.indexValue, hkey]
      dsimp only
      rw [if_pos hindex, Decimal.read_eq_error hlength]
      rfl
    simp only [Item.ofArgument, hkind, hvalue, error_bind]
  | literal | computed => simp [overflow?, hkind] at hoverflow

/-- A fault of the key is the fault of the argument. -/
theorem ofArgument_of_faultOf {fault : Fault} (hfault : faultOf? earlier argument = some fault) :
    Item.ofArgument (nextAfter earlier) argument = .error fault := by
  cases hkey : keyFault? argument with
  | some cause =>
    simp only [faultOf?, hkey, Option.map_some, Option.some_or, Option.some.injEq] at hfault
    rw [ofArgument_of_keyFault _ hkey, hfault]
  | none =>
    simp only [faultOf?, hkey, Option.map_none, Option.none_or, Option.map_eq_some_iff] at hfault
    obtain ⟨overflow, hoverflow, rfl⟩ := hfault
    exact ofArgument_of_overflow hkey hoverflow

theorem ofArgument_of_faultOf_eq_none (hfault : faultOf? earlier argument = none) :
    Item.ofArgument (nextAfter earlier) argument =
      .ok (⟨writtenKey argument (integerKey? earlier argument), argument.value,
          argument.kind == .positional || explicitIndex? argument == some (nextAfter earlier)⟩,
        nextAfter ((integerKey? earlier argument).toList ++ earlier)) := by
  rw [faultOf?, Option.or_eq_none_iff, Option.map_eq_none_iff, Option.map_eq_none_iff] at hfault
  exact ofArgument_of_sound hfault.1 (withinLimits_singleton hfault.1 hfault.2)

/-! ## All arguments -/

/-- Arguments are refused for their first fault or written as they are described. -/
theorem itemsFrom_eq (earlier : List Nat) (arguments : List Argument) :
    itemsFrom (nextAfter earlier) arguments =
      match firstFault? earlier arguments with
      | some fault => .error fault
      | none => .ok (describedItems earlier arguments) := by
  induction arguments generalizing earlier with
  | nil => rfl
  | cons argument rest ih =>
    rw [itemsFrom, firstFault?]
    cases hfault : faultOf? earlier argument with
    | some fault => rw [ofArgument_of_faultOf hfault, error_bind, Option.some_or]
    | none =>
      rw [ofArgument_of_faultOf_eq_none hfault, ok_bind, Option.none_or]
      dsimp only
      rw [ih]
      cases firstFault? ((integerKey? earlier argument).toList ++ earlier) rest <;> rfl

/-- A literal of arguments is refused for its first fault, or written as described. -/
theorem collection_eq_of_toArguments {entries : List Entry} {arguments : List Argument}
    (harguments : Entry.toArguments entries = .ok arguments) :
    collection entries =
      match firstFault? [] arguments with
      | some fault => .error fault
      | none => .ok (literalOf (describedItems [] arguments)) := by
  rw [collection, harguments, ok_bind, ← nextAfter_nil, itemsFrom_eq]
  cases firstFault? [] arguments <;> rfl

/-- Entries are written exactly if none of them is a datum and no argument is at fault. -/
theorem collection_eq_ok_iff {entries : List Entry} {code : String} :
    collection entries = .ok code ↔
      entries.findSome? Entry.refusal? = none ∧
        firstFault? [] (entries.filterMap Entry.argument?) = none ∧
        code = literalOf (describedItems [] (entries.filterMap Entry.argument?)) := by
  rw [collection, Entry.toArguments_eq]
  cases entries.findSome? Entry.refusal? with
  | some fault => simp only [error_bind, reduceCtorEq, false_and]
  | none =>
    dsimp only
    rw [ok_bind, ← nextAfter_nil, itemsFrom_eq]
    cases firstFault? [] (entries.filterMap Entry.argument?) with
    | some fault => simp only [error_bind, reduceCtorEq, false_and, and_false]
    | none => simp only [ok_bind, pure_eq_ok, Except.ok.injEq, true_and, eq_comm]

/-- A fault of an argument is a malformed key or an integer with too many digits. -/
theorem faultOf_cases {fault : Fault} (hfault : faultOf? earlier argument = some fault) :
    (∃ cause, fault = .malformed cause) ∨ ∃ overflow, fault = .numeral overflow := by
  rw [faultOf?, Option.or_eq_some_iff, Option.map_eq_some_iff, Option.map_eq_some_iff] at hfault
  rcases hfault with ⟨cause, _, rfl⟩ | ⟨_, overflow, _, rfl⟩
  · exact .inl ⟨cause, rfl⟩
  · exact .inr ⟨overflow, rfl⟩

/-- Arguments are refused as malformed or for a numeral, and for nothing else. -/
theorem firstFault_cases {arguments : List Argument} {fault : Fault}
    (hfault : firstFault? earlier arguments = some fault) :
    (∃ cause, fault = .malformed cause) ∨ ∃ overflow, fault = .numeral overflow := by
  induction arguments generalizing earlier with
  | nil => cases hfault
  | cons argument rest ih =>
    rw [firstFault?, Option.or_eq_some_iff] at hfault
    rcases hfault with hfirst | ⟨_, hrest⟩
    · exact faultOf_cases hfirst
    · exact ih hrest

end Expression

end TemplateCalls
