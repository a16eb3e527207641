import Mathlib.Algebra.Group.Nat.Defs
import TemplateCalls.Proofs.Scanner
import TemplateCalls.Text.Quoted

/-!
# The forms of quoted code points

Between its two marks a literal shows every code point of its text in one of three forms: as it
stands, by a letter or mark after a backslash, or by its number in hexadecimal digits. Whatever is
proved of literals follows from the three forms; here it is that all characters of a literal are
printable, so that nothing in it ends a line.
-/

namespace TemplateCalls.Text.Quoted

open Scanner (Mark isLineEnd)

/-! ## The three forms -/

/-- The letters and marks that stand after a backslash, with the characters that they stand for. -/
def shownLetters : List (Char × Char) :=
  [('\\', '\\'), ('\'', '\''), ('"', '"'), ('t', '\t'), ('n', '\n'), ('r', '\r')]

def shownWidths : List (Char × Nat) := [('x', 2), ('u', 4), ('U', 8)]

/-- What shows a code point between two marks. -/
inductive Shows (mark : Mark) : CodePoint → List Char → Prop where
  | plain {character : Char} (printable : isPrintable character = true)
      (mark_ne : character ≠ mark.character) (backslash_ne : character ≠ '\\') :
      Shows mark (.character character) [character]
  | letter {letter character : Char} (mem : (letter, character) ∈ shownLetters) :
      Shows mark (.character character) ['\\', letter]
  | number {point : CodePoint} {letter : Char} {width code : Nat}
      (mem : (letter, width) ∈ shownWidths) (lt : code < 16 ^ width)
      (point_eq : CodePoint.ofNat? code = some point) :
      Shows mark point ('\\' :: letter :: hexDigits width code)

theorem ofNat?_toNat (character : Char) :
    CodePoint.ofNat? character.toNat = some (.character character) := by
  have hvalid : character.toNat.isValidChar := character.valid
  rw [CodePoint.ofNat?, if_pos hvalid, Char.ofNat_toNat]

theorem ofNat?_surrogate (distance : Fin 0x800) :
    CodePoint.ofNat? (CodePoint.firstSurrogate + distance) = some (.surrogate distance) := by
  have hinvalid : ¬(CodePoint.firstSurrogate + distance.val).isValidChar := by
    unfold Nat.isValidChar CodePoint.firstSurrogate
    omega
  have hdistance : CodePoint.firstSurrogate + distance.val - CodePoint.firstSurrogate = distance :=
    Nat.add_sub_cancel_left ..
  rw [CodePoint.ofNat?, if_neg hinvalid, dif_pos (by omega)]
  simp [hdistance]

theorem shows_escape (mark : Mark) (character : Char) :
    Shows mark (.character character) (escape mark.character character) := by
  have hpoint := ofNat?_toNat character
  have hvalid : character.toNat.isValidChar := character.valid
  unfold Nat.isValidChar at hvalid
  unfold escape
  split_ifs with hspecial htab hfeed hreturn hprintable hshort hmiddle
  · apply Shows.letter
    rcases Bool.or_eq_true_iff.mp hspecial with hmark | hbackslash
    · rw [beq_iff_eq.mp hmark]
      cases mark <;> decide
    · rw [beq_iff_eq.mp hbackslash]
      decide
  · rw [beq_iff_eq.mp htab]
    exact .letter (by decide)
  · rw [beq_iff_eq.mp hfeed]
    exact .letter (by decide)
  · rw [beq_iff_eq.mp hreturn]
    exact .letter (by decide)
  · simp only [Bool.or_eq_true, beq_iff_eq, not_or] at hspecial
    exact .plain hprintable hspecial.1 hspecial.2
  · exact .number (by decide) hshort hpoint
  · exact .number (by decide) hmiddle hpoint
  · exact .number (by decide) (by omega) hpoint

theorem shows_escapePoint (mark : Mark) (point : CodePoint) :
    Shows mark point (escapePoint mark.character point) := by
  cases point with
  | character value => exact shows_escape mark value
  | surrogate distance =>
    have hcode : CodePoint.firstSurrogate + distance.val < 16 ^ 4 := by
      unfold CodePoint.firstSurrogate
      omega
    exact .number (by decide) hcode (ofNat?_surrogate distance)

theorem exists_digitChar_of_mem_hexDigits {width number : Nat} {character : Char}
    (hmem : character ∈ hexDigits width number) :
    ∃ digit < 16, character = Nat.digitChar digit := by
  induction width generalizing number with
  | zero => cases hmem
  | succ width ih =>
    rcases List.mem_append.mp hmem with hinit | hlast
    · exact ih hinit
    · exact ⟨_, Nat.mod_lt number (by decide), List.mem_singleton.mp hlast⟩

/-- A literal is enclosed in one of the two marks. -/
theorem exists_mark_eq (text : CodeText) : ∃ mark : Mark, Quoted.mark text = mark.character := by
  unfold Quoted.mark
  split
  · exact ⟨.double, rfl⟩
  · exact ⟨.single, rfl⟩

/-- What shows a code point does not begin with the mark. -/
theorem Shows.exists_eq_cons {mark : Mark} {point : CodePoint} {text : List Char}
    (hshows : Shows mark point text) :
    ∃ first rest, text = first :: rest ∧ first ≠ mark.character := by
  have hbackslash : '\\' ≠ mark.character := by cases mark <;> decide
  cases hshows with
  | plain _ hne _ => exact ⟨_, _, rfl, hne⟩
  | letter _ => exact ⟨_, _, rfl, hbackslash⟩
  | number _ _ _ => exact ⟨_, _, rfl, hbackslash⟩

/-! ## Printable characters -/

theorem not_isLineEnd_of_isPrintable {character : Char}
    (hprintable : isPrintable character = true) : isLineEnd character = false := by
  rw [isLineEnd, Bool.or_eq_false_iff, beq_eq_false_iff_ne, beq_eq_false_iff_ne]
  constructor <;> rintro rfl <;> revert hprintable <;> decide

theorem isPrintable_of_mem_hexDigits {width number : Nat} {character : Char}
    (hmem : character ∈ hexDigits width number) : isPrintable character = true := by
  have hdigit : ∀ digit < 16, isPrintable (Nat.digitChar digit) = true := by decide
  obtain ⟨digit, hlt, rfl⟩ := exists_digitChar_of_mem_hexDigits hmem
  exact hdigit digit hlt

theorem Shows.isPrintable {mark : Mark} {point : CodePoint} {text : List Char}
    (hshows : Shows mark point text) : ∀ character ∈ text, isPrintable character = true := by
  have hbackslash : Text.isPrintable '\\' = true := by decide
  have hletters : ∀ shown ∈ shownLetters, Text.isPrintable shown.1 = true := by decide
  have hwidths : ∀ shown ∈ shownWidths, Text.isPrintable shown.1 = true := by decide
  cases hshows with
  | plain hprintable _ _ => exact List.forall_mem_singleton.mpr hprintable
  | letter hmem =>
    exact List.forall_mem_cons.mpr
      ⟨hbackslash, List.forall_mem_singleton.mpr (hletters _ hmem)⟩
  | number hmem _ _ =>
    exact List.forall_mem_cons.mpr ⟨hbackslash, List.forall_mem_cons.mpr
      ⟨hwidths _ hmem, fun _ ↦ isPrintable_of_mem_hexDigits⟩⟩

/-- A literal holds printable characters only. -/
theorem isPrintable_of_mem_encode {text : CodeText} {character : Char}
    (hmem : character ∈ encode text) : isPrintable character = true := by
  obtain ⟨mark, hmark⟩ := exists_mark_eq text
  have hprintable : isPrintable mark.character = true := by cases mark <;> decide
  rw [encode, hmark, List.mem_cons, List.mem_append, List.mem_singleton] at hmem
  rcases hmem with rfl | hbody | rfl
  · exact hprintable
  · obtain ⟨point, _, hpoint⟩ := List.mem_flatMap.mp hbody
    exact (shows_escapePoint mark point).isPrintable character hpoint
  · exact hprintable

def lineEnds : List Char :=
  ['\n', '\r', '\x0b', '\x0c', '\x1c', '\x1d', '\x1e', '\u0085', '\u2028', '\u2029']

def IsOneLine (text : List Char) : Prop := ∀ character ∈ text, character ∉ lineEnds

instance (text : List Char) : Decidable (IsOneLine text) :=
  List.decidableBAll (· ∉ lineEnds) text

theorem IsOneLine.append {first second : List Char} (hfirst : IsOneLine first)
    (hsecond : IsOneLine second) : IsOneLine (first ++ second) :=
  List.forall_mem_append.mpr ⟨hfirst, hsecond⟩

theorem IsOneLine.lineFeed_not_mem {text : List Char} (htext : IsOneLine text) : '\n' ∉ text :=
  fun hmem ↦ htext _ hmem List.mem_cons_self

/-- A literal holds no line end. -/
theorem isOneLine_encode (text : CodeText) : IsOneLine (encode text) := by
  have hunprintable : lineEnds.any isPrintable = false := by decide +kernel
  intro character hmem hlineEnd
  exact List.any_eq_false.mp hunprintable character hlineEnd (isPrintable_of_mem_encode hmem)

end TemplateCalls.Text.Quoted
