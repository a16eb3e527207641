import Mathlib.Data.List.DropRight
import TemplateCalls.Text.CharacterSets

/-!
# Trimmed texts

A trimmed text is told from the text it comes from by what is left out: blanks alone, at either end,
and no blank is left at an end. So there is one trimmed text for each text, it is empty exactly for
a text of blanks, and trimming it again changes nothing.
-/

namespace TemplateCalls.Text

def AllBlank (text : CodeText) : Prop := ∀ point ∈ text, point.satisfies isBlank = true

instance (text : CodeText) : Decidable (AllBlank text) :=
  inferInstanceAs (Decidable (∀ point ∈ text, _))

/-- A text without the blanks at its two ends. -/
structure IsTrimmed (text trimmed : CodeText) : Prop where
  parts : ∃ before after, text = before ++ trimmed ++ after ∧ AllBlank before ∧ AllBlank after
  first : ∀ point, trimmed.head? = some point → point.satisfies isBlank = false
  last : ∀ point, trimmed.getLast? = some point → point.satisfies isBlank = false

theorem trimBlanks_eq (text : CodeText) :
    trimBlanks text =
      (text.dropWhile (·.satisfies isBlank)).rdropWhile (·.satisfies isBlank) := rfl

/-- What is dropped is exactly a first part whose items all have a property, if the next item lacks
it. -/
theorem dropWhile_append_eq {α : Type} {property : α → Bool} {before rest : List α}
    (hbefore : ∀ item ∈ before, property item = true)
    (hrest : ∀ item, rest.head? = some item → property item = false) :
    (before ++ rest).dropWhile property = rest := by
  rw [List.dropWhile_append_of_pos hbefore]
  cases rest with
  | nil => rfl
  | cons first rest => rw [List.dropWhile_cons, hrest first rfl, if_neg Bool.false_ne_true]

/-- Trimming takes only blanks away, and all of them at both ends. -/
theorem isTrimmed_trimBlanks (text : CodeText) : IsTrimmed text (trimBlanks text) := by
  let blank : CodePoint → Bool := (·.satisfies isBlank)
  let middle := text.dropWhile blank
  have hparts : middle = middle.rdropWhile blank ++ middle.rtakeWhile blank :=
    List.rdropWhile_append_rtakeWhile.symm
  refine ⟨⟨text.takeWhile blank, middle.rtakeWhile blank, ?_, ?_, ?_⟩, ?_, ?_⟩
  · rw [trimBlanks_eq, List.append_assoc, ← hparts, List.takeWhile_append_dropWhile]
  · exact fun _ ↦ List.mem_takeWhile_imp
  · exact fun _ ↦ List.mem_rtakeWhile_imp
  · intro point hpoint
    have hfirst : middle.head? = some point := by
      rw [hparts, List.head?_append, show (middle.rdropWhile blank).head? = some point from hpoint]
      rfl
    have hnot := List.head?_dropWhile_not blank text
    rwa [show (text.dropWhile blank).head? = some point from hfirst] at hnot
  · intro point hpoint
    have hreverse : (middle.reverse.dropWhile blank).head? = some point := by
      rw [← hpoint, trimBlanks_eq, List.rdropWhile, List.getLast?_reverse]
    have hnot := List.head?_dropWhile_not blank middle.reverse
    rwa [hreverse] at hnot

theorem trimBlanks_of_isTrimmed {text trimmed : CodeText} (htrimmed : IsTrimmed text trimmed) :
    trimBlanks text = trimmed := by
  obtain ⟨before, after, rfl, hbefore, hafter⟩ := htrimmed.parts
  cases trimmed with
  | nil =>
    have hblank : ∀ point ∈ before ++ [] ++ after, point.satisfies isBlank = true := by
      rw [List.append_nil]
      exact List.forall_mem_append.mpr ⟨hbefore, hafter⟩
    rw [trimBlanks_eq, List.dropWhile_eq_nil_iff.mpr hblank, List.rdropWhile_nil]
  | cons first rest =>
    have hfirst : ∀ point, (first :: rest ++ after).head? = some point →
        point.satisfies isBlank = false := htrimmed.first
    have hlast : ∀ point, (first :: rest).reverse.head? = some point →
        point.satisfies isBlank = false := by
      rw [List.head?_reverse]
      exact htrimmed.last
    have hafter : ∀ point ∈ after.reverse, point.satisfies isBlank = true :=
      fun point hpoint ↦ hafter point (List.mem_reverse.mp hpoint)
    rw [trimBlanks_eq, List.append_assoc, dropWhile_append_eq hbefore hfirst,
      List.rdropWhile, List.reverse_append, dropWhile_append_eq hafter hlast, List.reverse_reverse]

/-- A text is what trimming leaves exactly if it meets the description of trimmed texts. -/
theorem trimBlanks_eq_iff {text trimmed : CodeText} :
    trimBlanks text = trimmed ↔ IsTrimmed text trimmed :=
  ⟨fun heq ↦ heq ▸ isTrimmed_trimBlanks text, trimBlanks_of_isTrimmed⟩

/-- Nothing is left exactly of a text of blanks. -/
theorem trimBlanks_eq_nil_iff {text : CodeText} : trimBlanks text = [] ↔ AllBlank text := by
  constructor
  · intro hnil
    obtain ⟨before, after, htext, hbefore, hafter⟩ := (isTrimmed_trimBlanks text).parts
    rw [hnil, List.append_nil] at htext
    rw [htext]
    exact List.forall_mem_append.mpr ⟨hbefore, hafter⟩
  · intro hblank
    rw [trimBlanks_eq, List.dropWhile_eq_nil_iff.mpr hblank, List.rdropWhile_nil]

/-- A trimmed text is its own trimmed text. -/
theorem IsTrimmed.self {text trimmed : CodeText} (htrimmed : IsTrimmed text trimmed) :
    IsTrimmed trimmed trimmed where
  parts := ⟨[], [], by rw [List.nil_append, List.append_nil], nofun, nofun⟩
  first := htrimmed.first
  last := htrimmed.last

theorem IsTrimmed.trans {text trimmed other : CodeText} (htrimmed : IsTrimmed text trimmed)
    (hother : IsTrimmed trimmed other) : IsTrimmed text other := by
  have heq : trimmed = other :=
    (trimBlanks_of_isTrimmed htrimmed.self).symm.trans (trimBlanks_of_isTrimmed hother)
  exact heq ▸ htrimmed

theorem IsTrimmed.not_allBlank {text trimmed : CodeText} (htrimmed : IsTrimmed text trimmed)
    (htext : ¬AllBlank text) : ¬AllBlank trimmed := by
  intro hblank
  have hnil := trimBlanks_eq_nil_iff.mpr hblank
  rw [trimBlanks_of_isTrimmed htrimmed.self] at hnil
  exact htext (trimBlanks_eq_nil_iff.mp ((trimBlanks_of_isTrimmed htrimmed).trans hnil))

end TemplateCalls.Text
