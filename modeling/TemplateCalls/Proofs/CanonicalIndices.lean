import TemplateCalls.Proofs.CommandLineArguments
import TemplateCalls.Proofs.Keys

/-!
# The canonical form of an index

An index key may have leading zeros, but it is written without them. What is written is again an
index key, for the same integer, and is written as it stands; so index keys are written alike
exactly if they are the same but for leading zeros. An index that is given as an integer is read as
this integer, and a key that is no run of ASCII digits is refused as an index.

Keys of more digits than can be read are not covered.
-/

namespace TemplateCalls.Argument

open Decimal

variable {key value : String}

/-- A text is an index key for the integer that another key denotes, and has no leading zero unless
it is zero itself. -/
structure IsCanonicalIndex (source key : String) : Prop where
  isIndex : isIndexKey source = true
  sameInteger : placeValue source.toList = placeValue key.toList
  noLeadingZero : source.toList.head? = some '0' → source = "0"

/-! ## One index -/

/-- An index key within the limit of digits denotes the sum of its digits by their places. -/
theorem indexValue_index (hkey : IsNumeral key.toList) (hlength : key.toList.length ≤ digitLimit) :
    (index key value).indexValue = .ok (placeValue key.toList) := by
  rw [indexValue_of_valid rfl (isNumeral_iff.mpr hkey) hlength, value_eq_placeValue]

theorem all_isDigit_of_isNumeral (hkey : IsNumeral key.toList) :
    key.toList.all Char.isDigit = true :=
  List.all_eq_true.mpr fun digit hdigit ↦ (isDigit_iff digit).mpr (hkey.2 digit hdigit)

theorem placeValue_lt (hkey : IsNumeral key.toList) (hlength : key.toList.length ≤ digitLimit) :
    placeValue key.toList < 10 ^ digitLimit := by
  rw [← value_eq_placeValue]
  exact value_lt_pow_digitLimit (all_isDigit_of_isNumeral hkey) hlength

/-- An index key within the limit of digits is written as the digits of what it denotes. -/
theorem keySource_index (hkey : IsNumeral key.toList) (hlength : key.toList.length ≤ digitLimit) :
    (index key value).keySource = .ok (.ofList (digits (placeValue key.toList))) :=
  keySource_of_index rfl (indexValue_index hkey hlength) (placeValue_lt hkey hlength)

/-- The digits of what a key denotes are its canonical form. -/
theorem isCanonicalIndex_digits (key : String) :
    IsCanonicalIndex (.ofList (digits (placeValue key.toList))) key where
  isIndex := isIndexKey_digits _
  sameInteger := by rw [String.toList_ofList, ← value_eq_placeValue, value_digits]
  noLeadingZero := by
    rw [String.toList_ofList]
    intro hhead
    rw [digits_eq_of_head? hhead]

/-! ## Two indices -/

/-- Two index keys are written alike exactly if they are the same but for leading zeros. -/
theorem keySource_index_eq_iff {first second other : String} (hfirst : IsNumeral first.toList)
    (hfirstLength : first.toList.length ≤ digitLimit) (hsecond : IsNumeral second.toList)
    (hsecondLength : second.toList.length ≤ digitLimit) :
    (index first value).keySource = (index second other).keySource ↔
      withoutLeadingZeros first.toList = withoutLeadingZeros second.toList := by
  rw [keySource_index hfirst hfirstLength, keySource_index hsecond hsecondLength, Except.ok.injEq,
    String.ofList_inj, digits_injective.eq_iff, ← value_eq_placeValue, ← value_eq_placeValue]
  exact value_eq_iff (all_isDigit_of_isNumeral hfirst) (all_isDigit_of_isNumeral hsecond)

/-! ## All keys -/

/-- A key that is no numeral denotes no index. -/
theorem indexValue_index_of_not_isNumeral (hkey : ¬IsNumeral key.toList) :
    (index key value).indexValue = .error (.malformed (.invalidIndex (some key))) := by
  have hinvalid : isIndexKey key = false := by
    rw [← Bool.not_eq_true]
    exact fun hindex ↦ hkey (isNumeral_iff.mp hindex)
  exact indexValue_of_invalid hinvalid

/-- An index key has a canonical form, in which it is written; keys are written alike exactly if they
are the same but for leading zeros; an integer that is given as an index is read as itself; and no
other key is an index. -/
theorem index_keys_canonical :
    (∀ key value : String, IsNumeral key.toList → key.toList.length ≤ digitLimit →
      (index key value).indexValue = .ok (placeValue key.toList) ∧
      ∃ source, (index key value).keySource = .ok source ∧ IsCanonicalIndex source key ∧
        ∀ other, (index source other).keySource = .ok source) ∧
    (∀ first second value other : String,
      IsNumeral first.toList → first.toList.length ≤ digitLimit →
      IsNumeral second.toList → second.toList.length ≤ digitLimit →
      ((index first value).keySource = (index second other).keySource ↔
        withoutLeadingZeros first.toList = withoutLeadingZeros second.toList)) ∧
    (∀ (number : Nat) (value : String), number < 10 ^ digitLimit →
      ∃ argument, indexOfInt number value = .ok argument ∧ argument.kind = .index ∧
        argument.indexValue = .ok number) ∧
    ∀ key value : String, ¬IsNumeral key.toList →
      (index key value).indexValue = .error (.malformed (.invalidIndex (some key))) := by
  refine ⟨?_, ?_, ?_, ?_⟩
  · intro key value hkey hlength
    have hlimit := placeValue_lt hkey hlength
    have hwritten (other : String) :
        (index (.ofList (digits (placeValue key.toList))) other).keySource =
          .ok (.ofList (digits (placeValue key.toList))) :=
      keySource_of_index rfl (indexValue_index_digits hlimit) hlimit
    exact ⟨indexValue_index hkey hlength, _, keySource_index hkey hlength,
      isCanonicalIndex_digits key, hwritten⟩
  · intro first second value other hfirst hfirstLength hsecond hsecondLength
    exact keySource_index_eq_iff hfirst hfirstLength hsecond hsecondLength
  · intro number value hnumber
    exact ⟨_, indexOfInt_eq_ok hnumber, rfl, indexValue_index_digits hnumber⟩
  · exact fun key value ↦ indexValue_index_of_not_isNumeral

/-- Keys with leading zeros, zero among them, an integer, and keys that are refused. -/
theorem index_keys_canonical_padded :
    (index "0070" "v").indexValue = .ok 70 ∧
      (index "0070" "v").keySource = .ok "70" ∧ IsCanonicalIndex "70" "0070" ∧
      (index "000" "v").keySource = (index "0" "w").keySource ∧
      (index "07" "v").keySource ≠ (index "70" "w").keySource ∧
      (∃ argument, indexOfInt 120 "v" = .ok argument ∧ argument.indexValue = .ok 120) ∧
      ∀ key ∈ ["", "-7", " 7", "7_0", "٧", "7\n"],
        (index key "v").indexValue = .error (.malformed (.invalidIndex (some key))) := by
  obtain ⟨hcanonical, halike, hinteger, hrefused⟩ := index_keys_canonical
  have hlimit : 120 < 10 ^ digitLimit :=
    Nat.lt_of_lt_of_le (by decide) (Nat.pow_le_pow_right (by decide) (show 3 ≤ digitLimit by decide))
  obtain ⟨hvalue, source, hsource, hform, _⟩ := hcanonical "0070" "v" (by decide) (by decide)
  obtain rfl : source = "70" := Except.ok.inj (hsource.symm.trans (by rfl))
  obtain ⟨argument, hargument, _, hnumber⟩ := hinteger 120 "v" hlimit
  refine ⟨hvalue, hsource, hform, ?_, ?_, ⟨argument, hargument, hnumber⟩, ?_⟩
  · exact (halike "000" "0" "v" "w" (by decide) (by decide) (by decide) (by decide)).mpr rfl
  · rw [Ne, halike "07" "70" "v" "w" (by decide) (by decide) (by decide) (by decide)]
    decide
  · have hforeign : ∀ key ∈ ["", "-7", " 7", "7_0", "٧", "7\n"], ¬IsNumeral key.toList := by decide
    exact fun key hmem ↦ hrefused key "v" (hforeign key hmem)

end TemplateCalls.Argument
