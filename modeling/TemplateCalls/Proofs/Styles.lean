import TemplateCalls.Proofs.Blanks
import TemplateCalls.Report

/-!
# Lines without control sequences

A control sequence is an escape character, a bracket, parameters and a letter. A line of output is
the text with a line feed after it exactly if no control sequence occurs in the text. One that does
occur is left out, and the line is shorter. Text around another that has no escape character in it
is left as it is, unless it may go on with a control sequence.
-/

namespace TemplateCalls

def IsStyle (style : List Char) : Prop :=
  ∃ parameters final, style = '\x1B' :: '[' :: (parameters ++ [final]) ∧
    (∀ parameter ∈ parameters, isStyleParameter parameter = true) ∧ final.isAlpha = true

/-- A text in which a control sequence occurs. -/
def HasStyle (text : List Char) : Prop := ∃ style, IsStyle style ∧ style <:+: text

/-! ## One control sequence -/

theorem isDigit_of_isAlpha {character : Char} (halpha : character.isAlpha = true) :
    character.isDigit = false := by
  have hletter : character.isUpper = true ∨ character.isLower = true := by
    rw [← Bool.or_eq_true]
    exact halpha
  have hleast : 65 ≤ character.val := by
    rcases hletter with hupper | hlower
    · have hbounds : 65 ≤ character.val ∧ character.val ≤ 90 := of_decide_eq_true hupper
      exact hbounds.1
    · have hbound : 97 ≤ character.val := of_decide_eq_true (Bool.and_eq_true_iff.mp hlower).1
      exact UInt32.le_trans (by decide) hbound
  refine Bool.eq_false_iff.mpr fun hdigit ↦ ?_
  have hmost : character.val ≤ 57 := of_decide_eq_true (Bool.and_eq_true_iff.mp hdigit).2
  exact absurd (UInt32.le_trans hleast hmost) (by decide)

theorem isStyleParameter_of_isAlpha {character : Char} (halpha : character.isAlpha = true) :
    isStyleParameter character = false := by
  have hsemicolon : character ≠ ';' := by
    rintro rfl
    exact absurd halpha (by decide)
  have hquestion : character ≠ '?' := by
    rintro rfl
    exact absurd halpha (by decide)
  simp [isStyleParameter, isDigit_of_isAlpha halpha, hsemicolon, hquestion]

/-- What is taken out after an escape character is exactly a control sequence. -/
theorem afterStyle?_eq_some_iff {text rest : List Char} :
    afterStyle? text = some rest ↔ ∃ style, IsStyle style ∧ '\x1B' :: text = style ++ rest := by
  constructor
  · intro hafter
    rw [afterStyle?.eq_def] at hafter
    split at hafter
    · next after =>
      split at hafter
      · next final more hdrop =>
        split at hafter
        · next halpha =>
          obtain rfl := Option.some.inj hafter
          have hparts : after = after.takeWhile isStyleParameter ++ final :: more := by
            rw [← hdrop, List.takeWhile_append_dropWhile]
          refine ⟨_, ⟨after.takeWhile isStyleParameter, final, rfl, fun _ ↦ List.mem_takeWhile_imp,
            halpha⟩, ?_⟩
          rw [List.cons_append, List.cons_append, List.append_assoc, List.singleton_append,
            ← hparts]
        · cases hafter
      · cases hafter
    · cases hafter
  · rintro ⟨_, ⟨parameters, final, rfl, hparameters, halpha⟩, heq⟩
    have htext : text = '[' :: (parameters ++ final :: rest) := by
      simpa only [List.cons_append, List.append_assoc, List.nil_append, List.cons.injEq,
        true_and] using heq
    have hdrop : (parameters ++ final :: rest).dropWhile isStyleParameter = final :: rest :=
      Text.dropWhile_append_eq hparameters fun character hcharacter ↦
        Option.some.inj hcharacter ▸ isStyleParameter_of_isAlpha halpha
    rw [htext, afterStyle?, hdrop]
    exact if_pos halpha

/-- What follows the control sequence at the start of a text. -/
def skipStyle? (character : Char) (rest : List Char) : Option (List Char) :=
  if character == '\x1B' then afterStyle? rest else none

theorem skipStyle?_of_ne {character : Char} (hescape : character ≠ '\x1B') (rest : List Char) :
    skipStyle? character rest = none :=
  if_neg (by simpa using hescape)

theorem skipStyle?_eq_some_iff {character : Char} {rest after : List Char} :
    skipStyle? character rest = some after ↔
      ∃ style, IsStyle style ∧ character :: rest = style ++ after := by
  by_cases hescape : character = '\x1B'
  · rw [skipStyle?, hescape, if_pos (beq_self_eq_true _), afterStyle?_eq_some_iff]
  · rw [skipStyle?_of_ne hescape]
    refine ⟨nofun, ?_⟩
    rintro ⟨_, ⟨parameters, final, rfl, _⟩, heq⟩
    exact absurd (List.cons.inj heq).1 hescape

theorem IsStyle.length_pos {style : List Char} (hstyle : IsStyle style) : 0 < style.length := by
  obtain ⟨parameters, final, rfl, _⟩ := hstyle
  exact Nat.succ_pos _

theorem length_lt_of_skipStyle? {character : Char} {rest after : List Char}
    (hskip : skipStyle? character rest = some after) :
    after.length < (character :: rest).length := by
  obtain ⟨style, hstyle, heq⟩ := skipStyle?_eq_some_iff.mp hskip
  rw [heq, List.length_append]
  exact Nat.lt_add_of_pos_left hstyle.length_pos

theorem not_hasStyle_nil : ¬HasStyle [] := by
  rintro ⟨style, hstyle, hinfix⟩
  rw [List.infix_nil.mp hinfix] at hstyle
  exact absurd hstyle.length_pos (Nat.lt_irrefl 0)

/-- A control sequence begins at the first character or occurs behind it. -/
theorem hasStyle_cons_iff {character : Char} {rest : List Char} :
    HasStyle (character :: rest) ↔ (skipStyle? character rest).isSome = true ∨ HasStyle rest := by
  simp only [HasStyle, List.infix_cons_iff, and_or_left, exists_or, Option.isSome_iff_exists,
    skipStyle?_eq_some_iff]
  refine or_congr_left ⟨?_, ?_⟩
  · rintro ⟨style, hstyle, after, heq⟩
    exact ⟨after, style, hstyle, heq.symm⟩
  · rintro ⟨after, style, hstyle, heq⟩
    exact ⟨style, hstyle, after, heq.symm⟩

/-- What stands before a text and has no escape character in it makes no control sequence. -/
theorem hasStyle_append_iff {before text : List Char} (hbefore : '\x1B' ∉ before) :
    HasStyle (before ++ text) ↔ HasStyle text := by
  induction before with
  | nil => rfl
  | cons character before ih =>
    rw [List.mem_cons, not_or] at hbefore
    rw [List.cons_append, hasStyle_cons_iff, skipStyle?_of_ne (Ne.symm hbefore.1), ih hbefore.2]
    simp

/-! ## Texts -/

theorem withoutStyles_cons (fuel : Nat) (character : Char) (rest : List Char) :
    withoutStyles (fuel + 1) (character :: rest) =
      match skipStyle? character rest with
      | some after => withoutStyles fuel after
      | none => character :: withoutStyles fuel rest := rfl

theorem length_withoutStyles_le (fuel : Nat) (text : List Char) :
    (withoutStyles fuel text).length ≤ text.length := by
  induction fuel generalizing text with
  | zero => simp [withoutStyles]
  | succ fuel ih =>
    cases text with
    | nil => simp [withoutStyles]
    | cons character rest =>
      rw [withoutStyles_cons]
      cases hskip : skipStyle? character rest with
      | none => simpa using ih rest
      | some after =>
        calc (withoutStyles fuel after).length
          _ ≤ after.length := ih after
          _ ≤ (character :: rest).length := (length_lt_of_skipStyle? hskip).le

/-- What is left of a text is the whole text exactly if no control sequence occurs in it. -/
theorem withoutStyles_eq_self_iff {fuel : Nat} {text : List Char} (hfuel : text.length ≤ fuel) :
    withoutStyles fuel text = text ↔ ¬HasStyle text := by
  induction fuel generalizing text with
  | zero =>
    obtain rfl := List.eq_nil_of_length_eq_zero (Nat.le_zero.mp hfuel)
    exact iff_of_true rfl not_hasStyle_nil
  | succ fuel ih =>
    cases text with
    | nil => exact iff_of_true rfl not_hasStyle_nil
    | cons character rest =>
      rw [withoutStyles_cons, hasStyle_cons_iff]
      cases hskip : skipStyle? character rest with
      | none =>
        have hrest := ih (Nat.le_of_succ_le_succ hfuel)
        simpa using hrest
      | some after =>
        have hshorter : (withoutStyles fuel after).length < (character :: rest).length :=
          (length_withoutStyles_le fuel after).trans_lt (length_lt_of_skipStyle? hskip)
        refine iff_of_false (fun hself ↦ ?_) (by simp)
        exact absurd (congrArg List.length hself) (Nat.ne_of_lt hshorter)

/-! ## Parts of a text -/

/-- Any number that bounds the length of a text leaves the same of it, since it bounds what follows
a control sequence, too. -/
theorem withoutStyles_eq_of_le {fuel other : Nat} {text : List Char} (hfuel : text.length ≤ fuel)
    (hother : text.length ≤ other) : withoutStyles fuel text = withoutStyles other text := by
  induction fuel generalizing other text with
  | zero =>
    obtain rfl := List.eq_nil_of_length_eq_zero (Nat.le_zero.mp hfuel)
    cases other <;> rfl
  | succ fuel ih =>
    cases text with
    | nil => cases other <;> rfl
    | cons character rest =>
      obtain ⟨other, rfl⟩ := Nat.exists_eq_add_one_of_ne_zero (Nat.ne_zero_of_lt hother)
      rw [withoutStyles_cons, withoutStyles_cons]
      cases hskip : skipStyle? character rest with
      | none =>
        exact congrArg (character :: ·)
          (ih (Nat.le_of_succ_le_succ hfuel) (Nat.le_of_succ_le_succ hother))
      | some after =>
        have hshorter := length_lt_of_skipStyle? hskip
        exact ih (by omega) (by omega)

def plain (text : List Char) : List Char := withoutStyles text.length text

theorem plain_cons (character : Char) (rest : List Char) :
    plain (character :: rest) =
      match skipStyle? character rest with
      | some after => plain after
      | none => character :: plain rest := by
  rw [plain, List.length_cons, withoutStyles_cons]
  cases hskip : skipStyle? character rest with
  | none => rfl
  | some after =>
    have hshorter := length_lt_of_skipStyle? hskip
    exact withoutStyles_eq_of_le (Nat.le_of_lt_succ hshorter) (Nat.le_refl _)

/-- What stands before a text and has no escape character in it is left as it is. -/
theorem plain_append_left {before : List Char} (hbefore : '\x1B' ∉ before) (text : List Char) :
    plain (before ++ text) = before ++ plain text := by
  induction before with
  | nil => rfl
  | cons character before ih =>
    rw [List.mem_cons, not_or] at hbefore
    rw [List.cons_append, plain_cons, skipStyle?_of_ne (Ne.symm hbefore.1), ih hbefore.2,
      List.cons_append]

/-- A character with which no control sequence goes on. -/
def BreaksStyle (character : Char) : Prop :=
  character ≠ '[' ∧ isStyleParameter character = false ∧ character.isAlpha = false

section append

variable {closing : Char} (hclosing : BreaksStyle closing) (rest : List Char)
include hclosing

theorem afterStyle?_append (text : List Char) :
    afterStyle? (text ++ closing :: rest) = (afterStyle? text).map (· ++ closing :: rest) := by
  obtain ⟨hbracket, hparameter, halpha⟩ := hclosing
  cases text with
  | nil => simp [afterStyle?, hbracket]
  | cons first others =>
    by_cases hfirst : first = '['
    · rw [hfirst, List.cons_append, afterStyle?, afterStyle?, List.dropWhile_append]
      cases hdrop : others.dropWhile isStyleParameter with
      | nil => simp [hparameter, halpha]
      | cons final more =>
        simp only [List.isEmpty_cons, Bool.false_eq_true, if_false, List.cons_append]
        cases final.isAlpha <;> rfl
    · simp [afterStyle?, hfirst]

theorem skipStyle?_append (character : Char) (text : List Char) :
    skipStyle? character (text ++ closing :: rest) =
      (skipStyle? character text).map (· ++ closing :: rest) := by
  rw [skipStyle?, skipStyle?, afterStyle?_append hclosing]
  split <;> rfl

/-- What stands behind a text is left as it is, if it has no escape character in it and does not go
on with a control sequence at the end of the text. -/
theorem plain_append_right (hrest : '\x1B' ∉ closing :: rest) (text : List Char) :
    plain (text ++ closing :: rest) = plain text ++ closing :: rest := by
  induction hlength : text.length using Nat.strong_induction_on generalizing text with
  | h length ih =>
    cases text with
    | nil =>
      calc
        plain ([] ++ closing :: rest) = plain (closing :: rest ++ []) := by
          rw [List.nil_append, List.append_nil]
        _ = closing :: rest ++ plain [] := plain_append_left hrest []
        _ = plain [] ++ closing :: rest := List.append_nil _
    | cons character others =>
      rw [List.cons_append, plain_cons, plain_cons, skipStyle?_append hclosing]
      cases hskip : skipStyle? character others with
      | none =>
        have hothers := ih others.length (by rw [← hlength]; exact Nat.lt_succ_self _) others rfl
        exact congrArg (character :: ·) hothers
      | some after => exact ih after.length (hlength ▸ length_lt_of_skipStyle? hskip) after rfl

end append

/-- A line is what is left of the text, and a line feed. -/
theorem outputLine_eq (text : String) : outputLine text = .ofList (plain text.toList) ++ "\n" := by
  have hclosing : BreaksStyle '\n' := ⟨by decide, by decide, by decide⟩
  calc
    outputLine text = .ofList (plain (text.toList ++ ['\n'])) := rfl
    _ = .ofList (plain text.toList ++ ['\n']) := by
      rw [plain_append_right hclosing [] (by decide)]
    _ = .ofList (plain text.toList) ++ "\n" := String.ofList_append

/-- A line is the text and a line feed exactly if no control sequence occurs in the text. -/
theorem outputLine_eq_iff {text : String} :
    outputLine text = text ++ "\n" ↔ ¬HasStyle text.toList := by
  rw [outputLine_eq, ← String.toList_inj, String.toList_append, String.toList_append,
    List.append_left_inj, String.toList_ofList]
  exact withoutStyles_eq_self_iff (Nat.le_refl _)

end TemplateCalls
