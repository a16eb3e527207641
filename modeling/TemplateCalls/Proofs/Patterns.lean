import Mathlib.Computability.Language
import TemplateCalls.Text.Pattern

/-!
# The language of a pattern

Each constructor of patterns stands for an operation on languages, and a pattern for the language
that these operations give. The texts that a pattern accepts are those of its language: what remains
of a pattern after a character denotes the rests of the texts that begin with the character, and
building it by `followedBy` and `or` drops no text.
-/

namespace TemplateCalls.Text.Pattern

open scoped Computability

def language : Pattern → Language Char
  | .nothing => 0
  | .empty => 1
  | .one accepts => {text | ∃ character, accepts character = true ∧ [character] = text}
  | .sequence first second => first.language * second.language
  | .choice first second => first.language + second.language
  | .many repeated => repeated.language∗

variable {next : Char} {text : List Char} {first second : Language Char}

/-! ## Texts of a product and of a repetition -/

/-- A text that begins with a character splits behind it, or the first language allows the empty
text. -/
theorem cons_mem_mul_iff :
    next :: text ∈ first * second ↔
      (∃ front rest, text = front ++ rest ∧ next :: front ∈ first ∧ rest ∈ second) ∨
        [] ∈ first ∧ next :: text ∈ second := by
  rw [Language.mem_mul]
  constructor
  · rintro ⟨front, hfront, rest, hrest, htext⟩
    cases front with
    | nil => exact .inr ⟨hfront, htext ▸ hrest⟩
    | cons character front =>
      rw [List.cons_append, List.cons.injEq] at htext
      exact .inl ⟨front, rest, htext.2.symm, htext.1 ▸ hfront, hrest⟩
  · rintro (⟨front, rest, htext, hfront, hrest⟩ | ⟨hempty, hsecond⟩)
    · exact ⟨next :: front, hfront, rest, hrest, by rw [htext, List.cons_append]⟩
    · exact ⟨[], hempty, next :: text, hsecond, rfl⟩

/-- The first part of a repetition may be taken to be non-empty. -/
theorem cons_mem_kstar_iff :
    next :: text ∈ first∗ ↔
      ∃ front rest, text = front ++ rest ∧ next :: front ∈ first ∧ rest ∈ first∗ := by
  constructor
  · intro hmem
    obtain ⟨parts, htext, hparts⟩ := Language.mem_kstar_iff_exists_nonempty.mp hmem
    cases parts with
    | nil => cases htext
    | cons part parts =>
      cases part with
      | nil => exact absurd rfl (hparts [] List.mem_cons_self).2
      | cons character front =>
        rw [List.flatten_cons, List.cons_append, List.cons.injEq] at htext
        refine ⟨front, parts.flatten, htext.2, ?_, ?_⟩
        · exact htext.1 ▸ (hparts (character :: front) List.mem_cons_self).1
        · apply Language.join_mem_kstar
          intro part hpart
          exact (hparts part (List.mem_cons_of_mem _ hpart)).1
  · rintro ⟨front, rest, htext, hfront, hrest⟩
    rw [← Language.one_add_self_mul_kstar_eq_kstar]
    refine .inr (Language.mem_mul.mpr ⟨next :: front, hfront, rest, hrest, ?_⟩)
    rw [htext, List.cons_append]

/-! ## Building patterns -/

theorem language_followedBy (first second : Pattern) :
    (first.followedBy second).language = first.language * second.language := by
  cases first with
  | nothing => exact (zero_mul second.language).symm
  | empty => exact (one_mul second.language).symm
  | one | sequence | choice | many => rfl

theorem language_or (first second : Pattern) :
    (first.or second).language = first.language + second.language := by
  cases first with
  | nothing => exact (zero_add second.language).symm
  | empty | one | sequence | choice | many =>
    cases second with
    | nothing => exact (add_zero _).symm
    | empty | one | sequence | choice | many => rfl

theorem language_sequenceOf (patterns : List Pattern) :
    (sequenceOf patterns).language = (patterns.map language).prod := by
  induction patterns with
  | nil => rfl
  | cons pattern patterns ih =>
    calc
      (sequenceOf (pattern :: patterns)).language =
          pattern.language * (sequenceOf patterns).language := language_followedBy _ _
      _ = ((pattern :: patterns).map language).prod := by rw [ih, List.map_cons, List.prod_cons]

theorem language_choiceOf (patterns : List Pattern) :
    (choiceOf patterns).language = (patterns.map language).sum := by
  induction patterns with
  | nil => rfl
  | cons pattern patterns ih =>
    calc
      (choiceOf (pattern :: patterns)).language =
          pattern.language + (choiceOf patterns).language := language_or _ _
      _ = ((pattern :: patterns).map language).sum := by rw [ih, List.map_cons, List.sum_cons]

theorem mem_language_many_one_iff {accepts : Char → Bool} :
    text ∈ (many (one accepts)).language ↔ ∀ character ∈ text, accepts character = true := by
  induction text with
  | nil => exact ⟨fun _ _ hmem ↦ (List.not_mem_nil hmem).elim, fun _ ↦ Language.nil_mem_kstar _⟩
  | cons next rest ih =>
    rw [language, cons_mem_kstar_iff, List.forall_mem_cons, ← ih]
    constructor
    · rintro ⟨front, others, hrest, ⟨character, haccepts, hcons⟩, hothers⟩
      cases hcons
      exact ⟨haccepts, hrest ▸ hothers⟩
    · rintro ⟨haccepts, hrest⟩
      exact ⟨[], rest, rfl, ⟨next, haccepts, rfl⟩, hrest⟩

/-- One character followed by any number of others. -/
theorem mem_language_one_followedBy_many_iff {start others : Char → Bool} :
    text ∈ ((one start).followedBy (many (one others))).language ↔
      ∃ first rest, text = first :: rest ∧ start first = true ∧
        ∀ character ∈ rest, others character = true := by
  rw [language_followedBy, Language.mem_mul]
  constructor
  · rintro ⟨_, ⟨first, hfirst, rfl⟩, rest, hrest, htext⟩
    exact ⟨first, rest, htext.symm, hfirst, mem_language_many_one_iff.mp hrest⟩
  · rintro ⟨first, rest, htext, hfirst, hrest⟩
    exact ⟨[first], ⟨first, hfirst, rfl⟩, rest, mem_language_many_one_iff.mpr hrest, htext.symm⟩

/-! ## Matching -/

/-- The test for the empty text decides whether it is in the language. -/
theorem allowsEmpty_iff (pattern : Pattern) :
    pattern.allowsEmpty = true ↔ [] ∈ pattern.language := by
  induction pattern with
  | nothing => exact ⟨fun hempty ↦ absurd hempty Bool.false_ne_true, fun hmem ↦ hmem.elim⟩
  | empty => exact ⟨fun _ ↦ rfl, fun _ ↦ rfl⟩
  | one accepts =>
    refine ⟨fun hempty ↦ absurd hempty Bool.false_ne_true, ?_⟩
    rintro ⟨character, -, hnil⟩
    cases hnil
  | sequence first second ihFirst ihSecond =>
    rw [allowsEmpty, Bool.and_eq_true, ihFirst, ihSecond, language, Language.mem_mul]
    constructor
    · rintro ⟨hfirst, hsecond⟩
      exact ⟨[], hfirst, [], hsecond, rfl⟩
    · rintro ⟨front, hfront, rest, hrest, happend⟩
      obtain ⟨rfl, rfl⟩ := List.append_eq_nil_iff.mp happend
      exact ⟨hfront, hrest⟩
  | choice first second ihFirst ihSecond =>
    rw [allowsEmpty, Bool.or_eq_true, ihFirst, ihSecond]
    rfl
  | many repeated => exact ⟨fun _ ↦ Language.nil_mem_kstar _, fun _ ↦ rfl⟩

/-- The derivative of a pattern by a character describes what may follow that character. In a
sequence the character may begin the second part only if the first allows the empty text. -/
theorem mem_language_after_iff (pattern : Pattern) (next : Char) (text : List Char) :
    text ∈ (pattern.after next).language ↔ next :: text ∈ pattern.language := by
  induction pattern generalizing text with
  | nothing => exact Iff.rfl
  | empty => exact ⟨fun hmem ↦ hmem.elim, fun hmem ↦ nomatch hmem⟩
  | one accepts =>
    have hcons : next :: text ∈ (Pattern.one accepts).language ↔
        accepts next = true ∧ text = [] := by
      constructor
      · rintro ⟨character, haccepts, htext⟩
        cases htext
        exact ⟨haccepts, rfl⟩
      · rintro ⟨haccepts, rfl⟩
        exact ⟨next, haccepts, rfl⟩
    rw [hcons, after]
    cases accepts next with
    | true => exact ⟨fun hmem ↦ ⟨rfl, hmem⟩, And.right⟩
    | false => exact ⟨fun hmem ↦ hmem.elim, fun hmem ↦ absurd hmem.1 Bool.false_ne_true⟩
  | sequence first second ihFirst ihSecond =>
    have hremaining : text ∈ ((first.after next).followedBy second).language ↔
        ∃ front rest, text = front ++ rest ∧ next :: front ∈ first.language ∧
          rest ∈ second.language := by
      rw [language_followedBy, Language.mem_mul]
      constructor
      · rintro ⟨front, hfront, rest, hrest, htext⟩
        exact ⟨front, rest, htext.symm, (ihFirst front).mp hfront, hrest⟩
      · rintro ⟨front, rest, htext, hfront, hrest⟩
        exact ⟨front, (ihFirst front).mpr hfront, rest, hrest, htext.symm⟩
    rw [language, cons_mem_mul_iff, ← hremaining, ← allowsEmpty_iff, ← ihSecond]
    simp only [after]
    cases first.allowsEmpty with
    | true =>
      rw [if_pos rfl, language_or]
      exact or_congr_right (and_iff_right rfl).symm
    | false =>
      rw [if_neg Bool.false_ne_true]
      exact (or_iff_left fun hempty ↦ Bool.false_ne_true hempty.1).symm
  | choice first second ihFirst ihSecond =>
    rw [after, language_or]
    exact or_congr (ihFirst text) (ihSecond text)
  | many repeated ih =>
    rw [after, language_followedBy, Language.mem_mul, language, cons_mem_kstar_iff]
    constructor
    · rintro ⟨front, hfront, rest, hrest, htext⟩
      exact ⟨front, rest, htext.symm, (ih front).mp hfront, hrest⟩
    · rintro ⟨front, rest, htext, hfront, hrest⟩
      exact ⟨front, (ih front).mpr hfront, rest, hrest, htext.symm⟩

/-- A pattern accepts the texts of its language and no others. -/
theorem accepts_iff_mem_language (pattern : Pattern) (text : List Char) :
    pattern.accepts text = true ↔ text ∈ pattern.language := by
  induction text generalizing pattern with
  | nil => exact allowsEmpty_iff pattern
  | cons next rest ih =>
    calc
      pattern.accepts (next :: rest) = true ↔ rest ∈ (pattern.after next).language :=
        ih (pattern.after next)
      _ ↔ next :: rest ∈ pattern.language := mem_language_after_iff pattern next rest

end TemplateCalls.Text.Pattern
