import Mathlib.Algebra.Group.Nat.Defs
import Mathlib.Data.List.Basic
import TemplateCalls.Decimal
import TemplateCalls.Proofs.Outcome

/-!
# Numerals and the limit of digits

Within the limit of digits, reading gives the number that a numeral denotes and writing gives its
digits; beyond the limit either is refused. What can be read can be written again. It is written
without leading zeros, so two numerals denote the same integer exactly if they differ in leading
zeros only.
-/

namespace TemplateCalls.Decimal

theorem read_eq_ok {text : List Char} (hlength : text.length ≤ digitLimit) :
    read text = .ok (value text) :=
  if_pos hlength

theorem read_eq_error {text : List Char} (hlength : digitLimit < text.length) :
    read text = .error (.reading text.length) :=
  if_neg (Nat.not_le.mpr hlength)

/-- The limit of digits in terms of the number. -/
theorem length_digits_le_iff (number : Nat) :
    (digits number).length ≤ digitLimit ↔ number < 10 ^ digitLimit :=
  Nat.length_toDigits_le_iff (by decide) (by decide)

theorem write_eq_ok {number : Nat} (hnumber : number < 10 ^ digitLimit) :
    write number = .ok (.ofList (digits number)) :=
  if_pos ((length_digits_le_iff number).mpr hnumber)

theorem write_eq_error {number : Nat} (hnumber : ¬number < 10 ^ digitLimit) :
    write number = .error .writing :=
  if_neg fun hlength ↦ hnumber ((length_digits_le_iff number).mp hlength)

theorem exists_write_iff (number : Nat) :
    (∃ written, write number = .ok written) ↔ number < 10 ^ digitLimit := by
  by_cases hnumber : number < 10 ^ digitLimit
  · exact ⟨fun _ ↦ hnumber, fun _ ↦ ⟨_, write_eq_ok hnumber⟩⟩
  · rw [write_eq_error hnumber]
    exact ⟨nofun, fun hless ↦ absurd hless hnumber⟩

/-- An integer can be written exactly if it has not too many digits. -/
theorem exists_writeInt_iff (value : Int) :
    (∃ written, writeInt value = .ok written) ↔ value.natAbs < 10 ^ digitLimit := by
  cases value with
  | ofNat number => exact exists_write_iff number
  | negSucc number =>
    rw [Int.natAbs_negSucc, Nat.succ_eq_add_one, ← exists_write_iff, writeInt,
      Outcome.exists_map_iff]

/-! ## Values -/

/-- The integer that digits denote, each of them counted by the power of ten of its place. -/
def placeValue : List Char → Nat
  | [] => 0
  | digit :: rest => (digit.toNat - '0'.toNat) * 10 ^ rest.length + placeValue rest

theorem value_cons (first : Char) (rest : List Char) :
    value (first :: rest) = 10 ^ rest.length * (first.toNat - '0'.toNat) + value rest := by
  rw [value, Nat.ofDigitChars_cons, Nat.mul_zero, Nat.zero_add,
    Nat.ofDigitChars_eq_ofDigitChars_zero, value]

/-- Reading digit by digit sums the digits by their places. -/
theorem value_eq_placeValue (text : List Char) : value text = placeValue text := by
  induction text with
  | nil => rfl
  | cons first rest ih => rw [value_cons, placeValue, ih, Nat.mul_comm]

/-- What is written reads back. -/
theorem value_digits (number : Nat) : value (digits number) = number :=
  Nat.ofDigitChars_ten_toDigits

theorem digits_injective : Function.Injective digits :=
  Function.LeftInverse.injective value_digits

theorem isDigit_of_mem_digits {number : Nat} {character : Char}
    (hmem : character ∈ digits number) : character.isDigit = true :=
  Nat.isDigit_of_mem_toDigits (by decide) (by decide) hmem

theorem isNumeral_digits (number : Nat) : isNumeral (digits number) = true := by
  have hdigits : (digits number).all Char.isDigit = true :=
    List.all_eq_true.mpr fun _ ↦ isDigit_of_mem_digits
  have hnonempty : (digits number).isEmpty = false :=
    List.isEmpty_eq_false_iff.mpr Nat.toDigits_ne_nil
  rw [isNumeral, hdigits, hnonempty]
  rfl

theorem digit_lt_ten {character : Char} (hdigit : character.isDigit = true) :
    character.toNat - '0'.toNat < 10 := by
  have hle : character.toNat ≤ 57 := (Char.isDigit_iff_toNat.mp hdigit).2
  have hzero : '0'.toNat = 48 := rfl
  omega

/-- As many digits denote less than that power of ten. -/
theorem value_lt_pow_length {text : List Char} (htext : text.all Char.isDigit = true) :
    value text < 10 ^ text.length := by
  induction text with
  | nil => decide
  | cons first rest ih =>
    rw [List.all_cons, Bool.and_eq_true] at htext
    calc
      value (first :: rest) < 10 ^ rest.length * (first.toNat - '0'.toNat) + 10 ^ rest.length := by
        rw [value_cons]
        exact Nat.add_lt_add_left (ih htext.2) _
      _ = 10 ^ rest.length * (first.toNat - '0'.toNat + 1) := (Nat.mul_succ _ _).symm
      _ ≤ 10 ^ rest.length * 10 := Nat.mul_le_mul_left _ (digit_lt_ten htext.1)
      _ = 10 ^ (first :: rest).length := (Nat.pow_succ ..).symm

/-- What can be read can be written. -/
theorem value_lt_pow_digitLimit {text : List Char} (htext : text.all Char.isDigit = true)
    (hlength : text.length ≤ digitLimit) : value text < 10 ^ digitLimit :=
  Nat.lt_of_lt_of_le (value_lt_pow_length htext) (Nat.pow_le_pow_right (by decide) hlength)

/-! ## Leading zeros -/

def withoutLeadingZeros (text : List Char) : List Char := text.dropWhile (· == '0')

theorem value_withoutLeadingZeros (text : List Char) :
    value (withoutLeadingZeros text) = value text := by
  induction text with
  | nil => rfl
  | cons first rest ih =>
    by_cases hzero : first = '0'
    · have hdrop : withoutLeadingZeros (first :: rest) = withoutLeadingZeros rest :=
        List.dropWhile_cons_of_pos (beq_iff_eq.mpr hzero)
      have hvalue : value (first :: rest) = value rest := by
        rw [value_cons, hzero, Nat.sub_self, Nat.mul_zero, Nat.zero_add]
      rw [hdrop, hvalue, ih]
    · have hdrop : withoutLeadingZeros (first :: rest) = first :: rest :=
        List.dropWhile_cons_of_neg (by simpa using hzero)
      rw [hdrop]

/-- No zero is left in front. -/
theorem head?_withoutLeadingZeros (text : List Char) :
    (withoutLeadingZeros text).head? ≠ some '0' := by
  intro hhead
  have hnot := List.head?_dropWhile_not (· == '0') text
  rw [withoutLeadingZeros] at hhead
  rw [hhead] at hnot
  exact absurd hnot (by decide)

theorem digitChar_sub_zero {character : Char} (hdigit : character.isDigit = true) :
    Nat.digitChar (character.toNat - '0'.toNat) = character := by
  have hle : '0'.toNat ≤ character.toNat := (Char.isDigit_iff_toNat.mp hdigit).1
  have hzero : '0'.toNat = 48 := rfl
  apply Char.toNat_inj.mp
  rw [Nat.toNat_digitChar_of_lt_ten (digit_lt_ten hdigit)]
  omega

/-- Reading on after a positive number writes the digits that are read behind its own. -/
theorem digits_ofDigitChars {number : Nat} {text : List Char} (hnumber : 0 < number)
    (htext : text.all Char.isDigit = true) :
    digits (Nat.ofDigitChars 10 text number) = digits number ++ text := by
  induction text generalizing number with
  | nil => rw [Nat.ofDigitChars_nil, List.append_nil]
  | cons first rest ih =>
    rw [List.all_cons, Bool.and_eq_true] at htext
    have hfirst := digit_lt_ten htext.1
    have hdigits : digits (10 * number + (first.toNat - '0'.toNat)) = digits number ++ [first] := by
      rw [digits, ← Nat.toDigits_append_toDigits (by decide) hnumber hfirst,
        Nat.toDigits_of_lt_base hfirst, digitChar_sub_zero htext.1, digits]
    rw [Nat.ofDigitChars_cons, ih (by omega) htext.2, hdigits, List.append_assoc,
      List.singleton_append]

/-- A numeral without a leading zero is written back as it stands. -/
theorem digits_value_of_head?_ne {text : List Char} (htext : text.all Char.isDigit = true)
    (hnonempty : text ≠ []) (hhead : text.head? ≠ some '0') : digits (value text) = text := by
  obtain ⟨first, rest, rfl⟩ := List.exists_cons_of_ne_nil hnonempty
  rw [List.all_cons, Bool.and_eq_true] at htext
  have hpositive : 0 < first.toNat - '0'.toNat := by
    have hle : '0'.toNat ≤ first.toNat := (Char.isDigit_iff_toNat.mp htext.1).1
    have hne : first.toNat ≠ '0'.toNat := fun heq ↦ hhead (congrArg some (Char.toNat_inj.mp heq))
    omega
  rw [value, Nat.ofDigitChars_cons, Nat.mul_zero, Nat.zero_add,
    digits_ofDigitChars hpositive htext.2, digits, Nat.toDigits_of_lt_base (digit_lt_ten htext.1),
    digitChar_sub_zero htext.1, List.singleton_append]

/-- What digits denote is written without their leading zeros, of which zero keeps one. -/
theorem digits_value {text : List Char} (htext : text.all Char.isDigit = true) :
    digits (value text) =
      if withoutLeadingZeros text = [] then ['0'] else withoutLeadingZeros text := by
  rw [← value_withoutLeadingZeros]
  split
  · next hempty =>
    rw [hempty]
    rfl
  · next hnonempty =>
    have hdigits : (withoutLeadingZeros text).all Char.isDigit = true :=
      List.all_eq_true.mpr fun digit hdigit ↦
        List.all_eq_true.mp htext digit ((List.dropWhile_suffix _).subset hdigit)
    exact digits_value_of_head?_ne hdigits hnonempty (head?_withoutLeadingZeros text)

/-- No number but zero is written with a leading zero. -/
theorem digits_eq_of_head? {number : Nat} (hhead : (digits number).head? = some '0') :
    digits number = ['0'] := by
  have hnumeral := isNumeral_digits number
  rw [isNumeral, Bool.and_eq_true] at hnumeral
  have hdigits := digits_value hnumeral.2
  rw [value_digits] at hdigits
  split at hdigits
  · exact hdigits
  · rw [hdigits] at hhead
    exact absurd hhead (head?_withoutLeadingZeros _)

/-- Digits denote the same integer exactly if they are the same but for leading zeros. -/
theorem value_eq_iff {text other : List Char} (htext : text.all Char.isDigit = true)
    (hother : other.all Char.isDigit = true) :
    value text = value other ↔ withoutLeadingZeros text = withoutLeadingZeros other := by
  constructor
  · intro hvalue
    have hdigits := congrArg digits hvalue
    rw [digits_value htext, digits_value hother] at hdigits
    split at hdigits <;> split at hdigits
    · next htextEmpty hotherEmpty => rw [htextEmpty, hotherEmpty]
    · exact absurd (congrArg List.head? hdigits.symm) (head?_withoutLeadingZeros other)
    · exact absurd (congrArg List.head? hdigits) (head?_withoutLeadingZeros text)
    · exact hdigits
  · intro hsame
    rw [← value_withoutLeadingZeros text, hsame, value_withoutLeadingZeros]

end TemplateCalls.Decimal
