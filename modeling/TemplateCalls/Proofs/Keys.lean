import TemplateCalls.Argument.Entry
import TemplateCalls.Proofs.Decimal
import TemplateCalls.Proofs.Outcome

/-!
# Keys as they are read and written

What a key is read as, and how it is written, by the kind of its argument; and when it is refused.
-/

namespace TemplateCalls.Argument

variable {argument : Argument}

theorem indexValue_of_invalid (hkey : argument.key.any isIndexKey = false) :
    argument.indexValue = .error (.malformed (.invalidIndex argument.key)) := by
  unfold indexValue
  cases hargument : argument.key with
  | none => rfl
  | some key =>
    rw [hargument, Option.any_some] at hkey
    dsimp only
    rw [hkey, if_neg Bool.false_ne_true]

/-- An index key with few enough digits denotes the value of its digits. -/
theorem indexValue_of_valid {key : String} (hkey : argument.key = some key)
    (hindex : isIndexKey key = true) (hlength : key.toList.length ≤ Decimal.digitLimit) :
    argument.indexValue = .ok (Decimal.value key.toList) := by
  rw [indexValue, hkey]
  dsimp only
  rw [if_pos hindex, Decimal.read_eq_ok hlength]
  rfl

/-- The digits of a number are an index key. -/
theorem isIndexKey_digits (number : Nat) : isIndexKey (.ofList (Decimal.digits number)) = true := by
  rw [isIndexKey, String.toList_ofList]
  exact Decimal.isNumeral_digits number

/-- The digits of a number are a key that is an index and denotes the number. -/
theorem indexValue_index_digits {number : Nat} {value : String}
    (hnumber : number < 10 ^ Decimal.digitLimit) :
    (index (.ofList (Decimal.digits number)) value).indexValue = .ok number := by
  have hlength : (String.ofList (Decimal.digits number)).toList.length ≤ Decimal.digitLimit := by
    rw [String.toList_ofList]
    exact (Decimal.length_digits_le_iff number).mpr hnumber
  rw [indexValue_of_valid rfl (isIndexKey_digits number) hlength, String.toList_ofList,
    Decimal.value_digits]

theorem indexOfInt_eq_ok {number : Nat} {value : String}
    (hnumber : number < 10 ^ Decimal.digitLimit) :
    indexOfInt number value = .ok (.index (.ofList (Decimal.digits number)) value) := by
  have hwrite : Decimal.writeInt (number : Int) = Decimal.write number := rfl
  rw [indexOfInt, hwrite, Decimal.write_eq_ok hnumber]
  rfl

/-- A keyed argument without a key has none to be written. -/
theorem keySource_of_empty (hkind : argument.kind ≠ .positional)
    (hkey : argument.key.all String.isEmpty = true) :
    argument.keySource = .error (.malformed (.emptyKey argument.kind)) := by
  unfold keySource
  cases hargument : argument.key with
  | none =>
    cases hargument : argument.kind with
    | positional => exact absurd hargument hkind
    | index | literal | computed => rfl
  | some key =>
    rw [hargument, Option.all_some] at hkey
    cases hargument : argument.kind with
    | positional => exact absurd hargument hkind
    | index | literal | computed => simp only [hkey, if_true]

theorem keySource_of_literal {key : String} (hkind : argument.kind = .literal)
    (hkey : argument.key = some key) (hnonempty : key.isEmpty = false) :
    argument.keySource = .ok (Text.quote key) := by
  rcases argument with ⟨kind, other, value⟩
  cases hkind
  cases hkey
  simp only [keySource, hnonempty, Bool.false_eq_true, if_false]

theorem keySource_of_computed {key : String} (hkind : argument.kind = .computed)
    (hkey : argument.key = some key) (hnonempty : key.isEmpty = false) :
    argument.keySource = .ok key := by
  rcases argument with ⟨kind, other, value⟩
  cases hkind
  cases hkey
  simp only [keySource, hnonempty, Bool.false_eq_true, if_false]

/-- An index is written as the integer that it denotes. -/
theorem keySource_of_index {number : Nat} (hkind : argument.kind = .index)
    (hnumber : argument.indexValue = .ok number) (hlimit : number < 10 ^ Decimal.digitLimit) :
    argument.keySource = .ok (.ofList (Decimal.digits number)) := by
  rcases argument with ⟨kind, key?, value⟩
  cases hkind
  cases key? with
  | none => cases hnumber
  | some key =>
    have hnonempty : key.isEmpty = false := by
      rw [← Bool.not_eq_true, String.isEmpty_iff]
      rintro rfl
      cases hnumber
    simp only [keySource, hnonempty, hnumber, Decimal.write_eq_ok hlimit, Bool.false_eq_true,
      if_false, Outcome.ok_bind]
    rfl

/-- A key that is no index is written as a quoted text or as it stands. -/
theorem key_of_keySource {source : String} (hsource : argument.keySource = .ok source)
    (hkind : argument.kind = .literal ∨ argument.kind = .computed) :
    ∃ key, argument.key = some key ∧
      source = if argument.kind = .literal then Text.quote key else key := by
  have hkeyed : argument.kind ≠ .positional := by
    rcases hkind with hkind | hkind <;> rw [hkind] <;> decide
  cases hempty : argument.key.all String.isEmpty with
  | true =>
    rw [keySource_of_empty hkeyed hempty] at hsource
    cases hsource
  | false =>
    cases hkey : argument.key with
    | none =>
      rw [hkey] at hempty
      cases hempty
    | some key =>
      rw [hkey, Option.all_some] at hempty
      refine ⟨key, rfl, ?_⟩
      rcases hkind with hkind | hkind
      · rw [keySource_of_literal hkind hkey hempty] at hsource
        rw [if_pos hkind, Except.ok.inj hsource]
      · rw [keySource_of_computed hkind hkey hempty] at hsource
        rw [if_neg (by rw [hkind]; decide), Except.ok.inj hsource]

end TemplateCalls.Argument
