import TemplateCalls.Argument.Entry
import TemplateCalls.Proofs.Decimal
import TemplateCalls.Proofs.Outcome

/-!
# The arguments of a call

The entries of a call stand for arguments unless one of them is a stray datum. Then the first of
these is what the call is refused for, whatever else is wrong: it is shown as something that is no
argument, unless it holds an integer that has too many digits to be shown. Where pairs with other
keys are handed over among the entries, the first of these or of the stray data decides.
-/

namespace TemplateCalls

namespace Datum

/-- What a call is refused for that holds a stray datum: the datum is no argument or, where it holds
an integer that is too long to be shown, that. -/
def refusal (datum : Datum) : Fault :=
  match datum.write with
  | .ok written => .malformed (.notAnArgument written)
  | .error overflow => .numeral overflow

/-- An integer with too many digits is refused for that, and not for being no argument. -/
theorem refusal_of_oversized {number : Nat} (hnumber : ¬number < 10 ^ Decimal.digitLimit) :
    (Datum.integer (.ofNat number)).refusal = .numeral .writing := by
  rw [refusal, write, Decimal.writeInt, Decimal.write_eq_error hnumber]

mutual

/-- Whether all integers that a datum holds are short enough to be written. -/
def isShowable : Datum → Bool
  | .integer value => decide (value.natAbs < 10 ^ Decimal.digitLimit)
  | .tuple items | .list items => areShowable items
  | _ => true

def areShowable : List Datum → Bool
  | [] => true
  | item :: rest => isShowable item && areShowable rest

end

mutual

/-- A datum can be shown exactly if all integers in it can be written. -/
theorem exists_write_iff (datum : Datum) :
    (∃ written, datum.write = .ok written) ↔ datum.isShowable = true := by
  cases datum with
  | integer value => rw [write, isShowable, Decimal.exists_writeInt_iff, decide_eq_true_eq]
  | tuple items =>
    rw [isShowable]
    match items with
    | [item] =>
      rw [write, Outcome.exists_map_iff, areShowable, areShowable, Bool.and_true]
      exact exists_write_iff item
    | [] => exact ⟨fun _ ↦ rfl, fun _ ↦ ⟨_, rfl⟩⟩
    | first :: second :: rest =>
      rw [write, Outcome.exists_map_iff]
      · exact exists_writeAll_iff (first :: second :: rest)
      · nofun
  | list items =>
    rw [write, isShowable, Outcome.exists_map_iff]
    exact exists_writeAll_iff items
  | nothing | truth value | text value | argument value => exact ⟨fun _ ↦ rfl, fun _ ↦ ⟨_, rfl⟩⟩

theorem exists_writeAll_iff (items : List Datum) :
    (∃ written, writeAll items = .ok written) ↔ areShowable items = true := by
  cases items with
  | nil => exact ⟨fun _ ↦ rfl, fun _ ↦ ⟨_, rfl⟩⟩
  | cons item rest =>
    rw [areShowable, Bool.and_eq_true, ← exists_write_iff item, ← exists_writeAll_iff rest, writeAll]
    simp only [Outcome.bind_eq_ok_iff, Outcome.pure_eq_ok, Except.ok.injEq]
    constructor
    · rintro ⟨_, written, hitem, others, hrest, _⟩
      exact ⟨⟨written, hitem⟩, others, hrest⟩
    · rintro ⟨⟨written, hitem⟩, others, hrest⟩
      exact ⟨_, written, hitem, others, hrest, rfl⟩

end

/-- Only a datum that can be shown makes a call malformed. -/
theorem exists_refusal_eq_malformed_iff (datum : Datum) :
    (∃ cause, datum.refusal = .malformed cause) ↔ datum.isShowable = true := by
  rw [← exists_write_iff, refusal]
  cases datum.write with
  | ok written => exact ⟨fun _ ↦ ⟨written, rfl⟩, fun _ ↦ ⟨.notAnArgument written, rfl⟩⟩
  | error overflow => exact ⟨nofun, nofun⟩

end Datum

namespace Entry

def argument? : Entry → Option Argument
  | .argument value => some value
  | .pair key value => some (.ofPair key value)
  | .datum _ => none

def stray? : Entry → Option StrayDatum
  | .datum value => some value
  | _ => none

def refusal? : Entry → Option Fault
  | .datum value => some value.val.refusal
  | _ => none

/-- A call is refused for the first stray datum in it. -/
theorem findSome?_refusal? (entries : List Entry) :
    entries.findSome? refusal? = (entries.findSome? stray?).map fun datum ↦ datum.val.refusal := by
  have hentry : refusal? = fun entry ↦ entry.stray?.map fun datum ↦ datum.val.refusal := by
    funext entry
    cases entry <;> rfl
  rw [hentry, List.map_findSome?]
  rfl

theorem fault?_toArgument (entry : Entry) : Outcome.fault? entry.toArgument = entry.refusal? := by
  cases entry with
  | argument value | pair key value => rfl
  | datum value =>
    rw [toArgument, refusal?, Datum.refusal]
    cases value.val.write <;> rfl

theorem toOption_toArgument (entry : Entry) : entry.toArgument.toOption = entry.argument? := by
  cases entry with
  | argument value | pair key value => rfl
  | datum value =>
    rw [toArgument]
    cases value.val.write <;> rfl

/-- The first datum decides; without one, the call has the arguments of its entries. -/
theorem toArguments_eq (entries : List Entry) :
    toArguments entries =
      match entries.findSome? refusal? with
      | some fault => .error fault
      | none => .ok (entries.filterMap argument?) := by
  rw [toArguments, Outcome.mapM_eq]
  simp only [fault?_toArgument, toOption_toArgument]
  cases entries.findSome? refusal? <;> rfl

theorem toArguments_of_valid {entries : List Entry}
    (hentries : ∀ entry ∈ entries, entry.argument?.isSome = true) :
    toArguments entries = .ok (entries.filterMap argument?) := by
  have hnone : entries.findSome? refusal? = none := by
    refine List.findSome?_eq_none_iff.mpr fun entry hentry ↦ ?_
    have hargument := hentries entry hentry
    cases entry with
    | argument value | pair key value => rfl
    | datum value => cases hargument
  rw [toArguments_eq, hnone]

/-- A call has arguments exactly if its first entry and the rest of it have. -/
theorem toArguments_cons_eq_ok_iff {entry : Entry} {rest : List Entry}
    {arguments : List Argument} :
    toArguments (entry :: rest) = .ok arguments ↔
      ∃ argument others, entry.argument? = some argument ∧ toArguments rest = .ok others ∧
        arguments = argument :: others := by
  have hentry (argument : Argument) :
      entry.toArgument = .ok argument ↔ entry.argument? = some argument := by
    rw [← Outcome.toOption_eq_some_iff, toOption_toArgument]
  unfold toArguments
  rw [List.mapM_cons]
  simp only [Outcome.bind_eq_ok_iff, Outcome.pure_eq_ok, Except.ok.injEq, hentry]
  constructor
  · rintro ⟨argument, hargument, others, hothers, rfl⟩
    exact ⟨argument, others, hargument, hothers, rfl⟩
  · rintro ⟨argument, others, hargument, hothers, rfl⟩
    exact ⟨argument, hargument, others, hothers, rfl⟩

theorem toArguments_map_argument (arguments : List Argument) :
    toArguments (arguments.map .argument) = .ok arguments := by
  have hnone : arguments.findSome? (refusal? ∘ .argument) = none :=
    List.findSome?_eq_none_iff.mpr fun _ _ ↦ rfl
  rw [toArguments_eq, List.findSome?_map, List.filterMap_map, hnone]
  exact congrArg Except.ok (List.filterMap_some ..)

/-- Without a datum among them, entries stand for their arguments one by one. -/
theorem map_argument? {entries : List Entry} (hrefusal : entries.findSome? refusal? = none) :
    entries.map argument? = (entries.filterMap argument?).map some := by
  induction entries with
  | nil => rfl
  | cons entry rest ih =>
    cases entry with
    | argument value | pair key value =>
      rw [List.map_cons, ih hrefusal]
      rfl
    | datum value => cases hrefusal

end Entry

namespace Handed

def entry? : Handed → Option Entry
  | .entry value => some value
  | .mistypedPair _ _ => none

def refusal? : Handed → Option Fault
  | .entry value => value.refusal?
  | .mistypedPair key _ => some (.keyNotText key.val.typeName)

theorem fault?_toArgument (handed : Handed) : Outcome.fault? handed.toArgument = handed.refusal? := by
  cases handed with
  | entry value => exact value.fault?_toArgument
  | mistypedPair key value => rfl

theorem toOption_toArgument (handed : Handed) :
    handed.toArgument.toOption = handed.entry?.bind Entry.argument? := by
  cases handed with
  | entry value => exact value.toOption_toArgument
  | mistypedPair key value => rfl

/-- The first datum or pair with another key decides; without one, the call has the arguments of the
entries that are handed over. -/
theorem toArguments_eq (handed : List Handed) :
    toArguments handed =
      match handed.findSome? refusal? with
      | some fault => .error fault
      | none => .ok ((handed.filterMap entry?).filterMap Entry.argument?) := by
  rw [toArguments, Outcome.mapM_eq]
  simp only [fault?_toArgument, toOption_toArgument, List.filterMap_filterMap]
  cases handed.findSome? refusal? <;> rfl

/-- What is refused among the entries is refused among all that is handed over. -/
theorem findSome?_refusal?_entries {handed : List Handed}
    (hrefusal : handed.findSome? refusal? = none) :
    (handed.filterMap entry?).findSome? Entry.refusal? = none := by
  refine List.findSome?_eq_none_iff.mpr fun entry hentry ↦ ?_
  obtain ⟨other, hother, hvalue⟩ := List.mem_filterMap.mp hentry
  have hnone := List.findSome?_eq_none_iff.mp hrefusal other hother
  cases other with
  | entry value =>
    rw [← Option.some.inj hvalue]
    exact hnone
  | mistypedPair key value => cases hnone

end Handed

end TemplateCalls
