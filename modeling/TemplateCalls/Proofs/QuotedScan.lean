import TemplateCalls.Proofs.Decimal
import TemplateCalls.Proofs.QuotedForms
import TemplateCalls.Proofs.Separation

/-!
# Scanning quoted texts and numerals

A text quoted for generated code is self-contained, whatever it holds: its own mark, backslashes and
line ends are escaped, and so nothing in it ends it early and no separator in it separates. A
numeral is self-contained because the scanner takes no notice of digits.
-/

namespace TemplateCalls.Scanner

open Text.Quoted (encode escapePoint exists_digitChar_of_mem_hexDigits exists_mark_eq hexDigits
  not_isLineEnd_of_isPrintable shows_escapePoint)

/-! ## Escapes -/

theorem readShort_of_mem_hexDigits (mark : Mark) {width number : Nat} {character : Char}
    (hmem : character ∈ hexDigits width number) :
    readShort mark character = some (.short mark) := by
  have hdigit : ∀ digit < 16, readShort mark (Nat.digitChar digit) = some (.short mark) := by
    cases mark <;> decide
  obtain ⟨digit, hlt, rfl⟩ := exists_digitChar_of_mem_hexDigits hmem
  exact hdigit digit hlt

/-- A code point is shown by one character that ends nothing, or by a backslash with a letter and
digits. -/
theorem escapePoint_cases (mark : Mark) (point : Text.CodePoint) :
    (∃ character, escapePoint mark.character point = [character] ∧
      readShort mark character = some (.short mark)) ∨
    ∃ letter digits, escapePoint mark.character point = '\\' :: letter :: digits ∧ letter ≠ '\r' ∧
      ∀ digit ∈ digits, readShort mark digit = some (.short mark) := by
  have hletters : ∀ shown ∈ Text.Quoted.shownLetters, shown.1 ≠ '\r' := by decide
  have hwidths : ∀ shown ∈ Text.Quoted.shownWidths, shown.1 ≠ '\r' := by decide
  have hshows := shows_escapePoint mark point
  generalize escapePoint mark.character point = text at hshows
  cases hshows with
  | @plain character hprintable hmark hbackslash =>
    refine .inl ⟨character, rfl, ?_⟩
    rw [readShort, if_neg hmark, if_neg hbackslash, not_isLineEnd_of_isPrintable hprintable,
      if_neg Bool.false_ne_true]
  | letter hmem => exact .inr ⟨_, [], rfl, hletters _ hmem, by simp⟩
  | number hmem _ _ =>
    exact .inr ⟨_, _, rfl, hwidths _ hmem, fun _ ↦ readShort_of_mem_hexDigits mark⟩

theorem step_short_of_readShort {mark : Mark} {character : Char} (brackets : List Bracket)
    (hread : readShort mark character = some (.short mark)) :
    step ⟨.short mark, brackets⟩ character = some ⟨.short mark, brackets⟩ := by
  rw [step_short, hread, Option.map_some]

theorem step_backslash (mark : Mark) (brackets : List Bracket) :
    step ⟨.short mark, brackets⟩ '\\' = some ⟨.shortEscape mark, brackets⟩ := by
  cases mark <;> rfl

theorem not_isPlain_short (mark : Mark) (brackets : List Bracket) :
    State.isPlain ⟨.short mark, brackets⟩ = false := Bool.and_false _

theorem not_isPlain_shortEscape (mark : Mark) (brackets : List Bracket) :
    State.isPlain ⟨.shortEscape mark, brackets⟩ = false := Bool.and_false _

/-- An escape ends where it began, in the quoted text. -/
theorem scan_escapePoint (mark : Mark) (brackets : List Bracket) (point : Text.CodePoint) :
    scan ⟨.short mark, brackets⟩ (escapePoint mark.character point) =
      some ⟨.short mark, brackets⟩ := by
  rcases escapePoint_cases mark point with ⟨character, heq, hread⟩ | ⟨letter, digits, heq, h⟩
  · rw [heq, scan_cons, step_short_of_readShort brackets hread]
    rfl
  · rw [heq, scan_cons, step_backslash, Option.bind_some, scan_cons,
      step_shortEscape_of_ne mark brackets h.1, Option.bind_some]
    exact scan_of_forall_step fun digit hdigit ↦ step_short_of_readShort brackets (h.2 digit hdigit)

/-- In an escape the scanner is in the quoted text throughout. -/
theorem cut?_escapePoint (separator : Char) (mark : Mark) (brackets : List Bracket)
    (point : Text.CodePoint) :
    cut? separator ⟨.short mark, brackets⟩ (escapePoint mark.character point) = none := by
  have hshort := not_isPlain_short mark brackets
  rcases escapePoint_cases mark point with ⟨character, heq, hread⟩ | ⟨letter, digits, heq, h⟩
  · rw [heq, cut?_cons_of_not_isPlain _ hshort (step_short_of_readShort brackets hread)]
    rfl
  · rw [heq, cut?_cons_of_not_isPlain _ hshort (step_backslash mark brackets),
      cut?_cons_of_not_isPlain _ (not_isPlain_shortEscape mark brackets)
        (step_shortEscape_of_ne mark brackets h.1),
      cut?_of_forall_step hshort
        fun digit hdigit ↦ step_short_of_readShort brackets (h.2 digit hdigit)]
    rfl

/-- The escaped characters of a text leave the scanner inside the literal. -/
theorem scan_flatMap_escapePoint (mark : Mark) (brackets : List Bracket) (text : CodeText) :
    scan ⟨.short mark, brackets⟩ (text.flatMap (escapePoint mark.character)) =
      some ⟨.short mark, brackets⟩ := by
  induction text with
  | nil => rfl
  | cons point rest ih =>
    rw [List.flatMap_cons, scan_append, scan_escapePoint, Option.bind_some, ih]

/-- No separator is met among the escaped characters of a text. -/
theorem cut?_flatMap_escapePoint (separator : Char) (mark : Mark) (brackets : List Bracket)
    (text : CodeText) :
    cut? separator ⟨.short mark, brackets⟩ (text.flatMap (escapePoint mark.character)) = none := by
  induction text with
  | nil => rfl
  | cons point rest ih =>
    rw [List.flatMap_cons, cut?_append (scan_escapePoint mark brackets point)
      (cut?_escapePoint separator mark brackets point), ih, Option.map_none]

/-! ## Literals -/

theorem step_mark (mark : Mark) (brackets : List Bracket) :
    step ⟨.code, brackets⟩ mark.character = some ⟨.opened mark, brackets⟩ := by
  cases mark <;> rfl

/-- The literal of a text ends in plain code; after the two marks of an empty one it is still open
whether a third follows. -/
theorem scan_encode (text : CodeText) (brackets : List Bracket) :
    ∃ mark : Mark, scan ⟨.code, brackets⟩ (encode text) =
      some ⟨if text.isEmpty then .empty mark else .code, brackets⟩ := by
  obtain ⟨mark, hmark⟩ := exists_mark_eq text
  refine ⟨mark, ?_⟩
  rw [encode, hmark, scan_cons, step_mark, Option.bind_some]
  cases text with
  | nil => cases mark <;> rfl
  | cons point rest =>
    obtain ⟨first, others, hfirst, hne⟩ := (shows_escapePoint mark point).exists_eq_cons
    have hclose : readShort mark mark.character = some .code := if_pos rfl
    calc
      scan ⟨.opened mark, brackets⟩
          ((point :: rest).flatMap (escapePoint mark.character) ++ [mark.character]) =
          scan ⟨.short mark, brackets⟩
            ((point :: rest).flatMap (escapePoint mark.character) ++ [mark.character]) := by
        rw [List.flatMap_cons, hfirst, List.cons_append, List.cons_append, scan_cons,
          step_opened_of_ne brackets hne, ← scan_cons]
      _ = scan ⟨.short mark, brackets⟩ [mark.character] := by
        rw [scan_append, scan_flatMap_escapePoint, Option.bind_some]
      _ = some ⟨.code, brackets⟩ := by
        rw [scan_cons, step_short, hclose]
        rfl

/-- No separator in a literal separates. -/
theorem cut?_encode {separator : Char} (hseparator : mark? separator = none) (text : CodeText) :
    cut? separator start (encode text) = none := by
  obtain ⟨mark, hmark⟩ := exists_mark_eq text
  have hpasses : (start.isPlain && mark.character == separator) = false := by
    refine Bool.and_eq_false_iff.mpr (.inr (beq_eq_false_iff_ne.mpr ?_))
    rintro rfl
    rw [mark?_eq_some_iff.mpr rfl] at hseparator
    cases hseparator
  have hopened : State.isPlain ⟨.opened mark, []⟩ = false := rfl
  have hshort := not_isPlain_short mark []
  rw [encode, hmark, cut?_cons _ hpasses (step_mark mark []), Option.map_eq_none_iff]
  cases text with
  | nil => cases mark <;> rfl
  | cons point rest =>
    obtain ⟨first, others, hfirst, hne⟩ := (shows_escapePoint mark point).exists_eq_cons
    have hclose : step ⟨.short mark, []⟩ mark.character = some ⟨.code, []⟩ := by
      rw [step_short, readShort, if_pos rfl, Option.map_some]
    calc
      cut? separator ⟨.opened mark, []⟩
          ((point :: rest).flatMap (escapePoint mark.character) ++ [mark.character]) =
          cut? separator ⟨.short mark, []⟩
            ((point :: rest).flatMap (escapePoint mark.character) ++ [mark.character]) := by
        rw [List.flatMap_cons, hfirst]
        exact cut?_congr (hopened.trans hshort.symm) (step_opened_of_ne [] hne) _
      _ = none := by
        rw [cut?_append (scan_flatMap_escapePoint mark [] _)
          (cut?_flatMap_escapePoint separator mark [] _),
          cut?_cons_of_not_isPlain [] hshort hclose]
        rfl

end TemplateCalls.Scanner

namespace TemplateCalls

open Scanner

theorem isSelfContained_codeText_quote (text : CodeText) : isSelfContained text.quote = true := by
  obtain ⟨mark, hscan⟩ := scan_encode text []
  rw [isSelfContained_iff, CodeText.quote, String.toList_ofList]
  refine ⟨_, hscan, ?_⟩
  cases text <;> rfl

theorem isSelfContained_text_quote (text : String) : isSelfContained (Text.quote text) = true :=
  isSelfContained_codeText_quote (.ofString text)

theorem isWhole_text_quote {separator : Char} (hseparator : mark? separator = none)
    (text : String) : IsWhole separator (Text.quote text) where
  selfContained := isSelfContained_text_quote text
  uncut := by
    rw [Text.quote, CodeText.quote, String.toList_ofList]
    exact cut?_encode hseparator _

theorem isSelfContained_digits (number : Nat) :
    isSelfContained (.ofList (Decimal.digits number)) = true := by
  have hdigit : ∀ code < 58, 48 ≤ code → step start (.ofNat code) = some start := by decide
  have hscan : scan start (Decimal.digits number) = some start := by
    apply scan_of_forall_step
    intro character hmem
    obtain ⟨hlow, hhigh⟩ := Char.isDigit_iff_toNat.mp (Decimal.isDigit_of_mem_digits hmem)
    rw [← Char.ofNat_toNat character]
    exact hdigit character.toNat (Nat.lt_succ_of_le hhigh) hlow
  rw [isSelfContained, String.toList_ofList, hscan]
  rfl

theorem isWhole_digits {separator : Char} (hseparator : separator.isDigit = false)
    (number : Nat) : IsWhole separator (.ofList (Decimal.digits number)) where
  selfContained := isSelfContained_digits number
  uncut := by
    rw [String.toList_ofList]
    refine cut?_of_not_mem fun hmem ↦ ?_
    rw [Decimal.isDigit_of_mem_digits hmem] at hseparator
    cases hseparator

end TemplateCalls
