import TemplateCalls.Proofs.QuotedForms
import TemplateCalls.Text.CharacterSets

/-!
# Reading quoted texts back

A string literal on one line is read by the rules of the language that it is written for, not by
undoing the way in which this one was written: all escapes of those rules are known, a backslash
before any other character stands for itself, and an escaped line end for nothing. Names of
characters are not looked up, and a literal between three marks is not on one line; both are
refused, and so are characters that cannot stand in a literal.

What is read from the literal of a text is that text, whatever it holds and whatever code follows.
-/

namespace TemplateCalls.Text.Quoted

open Scanner (Mark mark? isLineEnd)

/-! ## The reader -/

def escapeLetters : List (Char × Char) :=
  [('\\', '\\'), ('\'', '\''), ('"', '"'), ('a', '\x07'), ('b', '\x08'), ('f', '\x0c'),
    ('n', '\n'), ('r', '\r'), ('t', '\t'), ('v', '\x0b')]

def escapeWidths : List (Char × Nat) := [('x', 2), ('u', 4), ('U', 8)]

/-- The code point of so many hexadecimal digits, and what follows them. -/
def hexPoint? (width : Nat) (text : List Char) : Option (CodeText × List Char) := do
  guard (width ≤ text.length)
  let point ← CodePoint.ofNat? (← hexNumber? (text.take width))
  return ([point], text.drop width)

def isOctalDigit (character : Char) : Bool := '0' ≤ character && character ≤ '7'

/-- The code point of an octal digit with up to two more, and what follows them. -/
def octalPoint? (first : Char) (text : List Char) : Option (CodeText × List Char) := do
  let others := (text.take 2).takeWhile isOctalDigit
  let number := (first :: others).foldl
    (fun number digit ↦ 8 * number + (digit.toNat - '0'.toNat)) 0
  let point ← CodePoint.ofNat? number
  return ([point], text.drop others.length)

/-- What an escape stands for after its backslash, and what follows it. -/
def escaped? : List Char → Option (CodeText × List Char)
  | [] => none
  | letter :: rest =>
    match escapeLetters.lookup letter, escapeWidths.lookup letter with
    | some character, _ => some ([.character character], rest)
    | none, some width => hexPoint? width rest
    | none, none =>
      if isOctalDigit letter then octalPoint? letter rest
      else if letter = '\n' then some ([], rest)
      else if letter = 'N' ∨ letter = '\r' ∨ letter = '\x00' then none
      else some ([.character '\\', .character letter], rest)

def unit? : List Char → Option (CodeText × List Char)
  | [] => none
  | character :: rest =>
    if character = '\\' then escaped? rest
    else if isLineEnd character ∨ character = '\x00' then none
    else some ([.character character], rest)

theorem length_le_of_hexPoint? {width : Nat} {text rest : List Char} {points : CodeText}
    (hpoint : hexPoint? width text = some (points, rest)) : rest.length ≤ text.length := by
  obtain ⟨_, _, hnumber⟩ := Option.bind_eq_some_iff.mp hpoint
  obtain ⟨_, _, hcode⟩ := Option.bind_eq_some_iff.mp hnumber
  obtain ⟨_, _, hresult⟩ := Option.bind_eq_some_iff.mp hcode
  cases hresult
  rw [List.length_drop]
  exact Nat.sub_le ..

theorem length_le_of_octalPoint? {first : Char} {text rest : List Char} {points : CodeText}
    (hpoint : octalPoint? first text = some (points, rest)) : rest.length ≤ text.length := by
  obtain ⟨_, _, hresult⟩ := Option.bind_eq_some_iff.mp hpoint
  cases hresult
  rw [List.length_drop]
  exact Nat.sub_le ..

theorem length_lt_of_escaped? {text rest : List Char} {points : CodeText}
    (hescaped : escaped? text = some (points, rest)) : rest.length < text.length := by
  cases text with
  | nil => cases hescaped
  | cons letter others =>
    rw [List.length_cons, Nat.lt_succ_iff]
    rw [escaped?] at hescaped
    split at hescaped
    · cases hescaped
      exact Nat.le_refl _
    · exact length_le_of_hexPoint? hescaped
    · split_ifs at hescaped
      · exact length_le_of_octalPoint? hescaped
      · cases hescaped
        exact Nat.le_refl _
      · cases hescaped
        exact Nat.le_refl _

theorem length_lt_of_unit? {text rest : List Char} {points : CodeText}
    (hunit : unit? text = some (points, rest)) : rest.length < text.length := by
  cases text with
  | nil => cases hunit
  | cons character others =>
    rw [unit?] at hunit
    split_ifs at hunit
    · exact Nat.lt_succ_of_lt (length_lt_of_escaped? hunit)
    · cases hunit
      exact Nat.lt_succ_self _

/-- What stands before the first mark that is not escaped, and what follows the mark. -/
def body? (mark : Mark) (text : List Char) : Option (CodeText × List Char) :=
  if text.head? = some mark.character then some ([], text.tail)
  else
    match _h : unit? text with
    | none => none
    | some (points, rest) => (body? mark rest).map fun parts ↦ (points ++ parts.1, parts.2)
termination_by text.length
decreasing_by exact length_lt_of_unit? _h

def read? : List Char → Option (CodeText × List Char)
  | [] => none
  | first :: rest => do
    let mark ← mark? first
    guard (¬[mark.character, mark.character].isPrefixOf rest)
    body? mark rest

/-! ## Escapes -/

theorem length_hexDigits (width number : Nat) : (hexDigits width number).length = width := by
  induction width generalizing number with
  | zero => rfl
  | succ width ih => rw [hexDigits, List.length_append, ih, List.length_singleton]

theorem hexNumber?_concat {digits : List Char} {number digit : Nat} {last : Char}
    (hdigits : hexNumber? digits = some number) (hlast : hexValue? last = some digit) :
    hexNumber? (digits ++ [last]) = some (16 * number + digit) := by
  rw [hexNumber?, List.foldlM_append]
  change (hexNumber? digits).bind _ = _
  rw [hdigits, Option.bind_some, List.foldlM_cons, hlast]
  rfl

/-- The last digits of a number denote its remainder. -/
theorem hexNumber?_hexDigits (width number : Nat) :
    hexNumber? (hexDigits width number) = some (number % 16 ^ width) := by
  have hdigit : ∀ digit < 16, hexValue? (Nat.digitChar digit) = some digit := by decide
  induction width generalizing number with
  | zero => rw [Nat.pow_zero, Nat.mod_one]; rfl
  | succ width ih =>
    have hlast := hdigit (number % 16) (Nat.mod_lt number (by decide))
    calc
      hexNumber? (hexDigits (width + 1) number) =
          some (16 * (number / 16 % 16 ^ width) + number % 16) := hexNumber?_concat (ih _) hlast
      _ = some (number % 16 ^ (width + 1)) := by rw [Nat.pow_succ', Nat.mod_mul, Nat.add_comm]

/-- As many hexadecimal digits as an escape has are read back as its code point. -/
theorem hexPoint?_hexDigits {width number : Nat} {point : CodePoint}
    (hnumber : number < 16 ^ width) (hpoint : CodePoint.ofNat? number = some point)
    (rest : List Char) :
    hexPoint? width (hexDigits width number ++ rest) = some ([point], rest) := by
  have hlength := length_hexDigits width number
  have hwidth : width ≤ (hexDigits width number ++ rest).length := by
    rw [List.length_append, hlength]
    exact Nat.le_add_right ..
  rw [hexPoint?, guard, if_pos hwidth, List.take_left' hlength, List.drop_left' hlength,
    hexNumber?_hexDigits, Nat.mod_eq_of_lt hnumber]
  simp only [Option.pure_def, Option.bind_eq_bind, Option.bind_some, hpoint]

theorem unit?_of_isPrintable {character : Char} (hprintable : isPrintable character = true)
    (hne : character ≠ '\\') (rest : List Char) :
    unit? (character :: rest) = some ([.character character], rest) := by
  have hnull : character ≠ '\x00' := by
    rintro rfl
    cases hprintable
  have hstands : ¬(isLineEnd character ∨ character = '\x00') := by
    rw [not_isLineEnd_of_isPrintable hprintable, not_or]
    exact ⟨Bool.false_ne_true, hnull⟩
  rw [unit?, if_neg hne, if_neg hstands]

theorem unit?_hexDigits {letter : Char} {width number : Nat} {point : CodePoint}
    (hletter : (letter, width) ∈ escapeWidths) (hnumber : number < 16 ^ width)
    (hpoint : CodePoint.ofNat? number = some point) (rest : List Char) :
    unit? ('\\' :: letter :: (hexDigits width number ++ rest)) = some ([point], rest) := by
  have hlookup : ∀ escape ∈ escapeWidths, escapeLetters.lookup escape.1 = none ∧
      escapeWidths.lookup escape.1 = some escape.2 := by decide
  obtain ⟨hplain, hwidth⟩ := hlookup _ hletter
  rw [unit?, if_pos rfl, escaped?]
  simp only [hplain, hwidth]
  exact hexPoint?_hexDigits hnumber hpoint rest

theorem unit?_letter {letter character : Char} (hletter : (letter, character) ∈ escapeLetters)
    (rest : List Char) :
    unit? ('\\' :: letter :: rest) = some ([.character character], rest) := by
  have hlookup : ∀ escape ∈ escapeLetters, escapeLetters.lookup escape.1 = some escape.2 := by
    decide
  rw [unit?, if_pos rfl, escaped?]
  simp only [hlookup _ hletter]

/-- What shows a code point is read as it. -/
theorem unit?_of_shows {mark : Mark} {point : CodePoint} {text : List Char}
    (hshows : Shows mark point text) (rest : List Char) :
    unit? (text ++ rest) = some ([point], rest) := by
  have hletters : ∀ shown ∈ shownLetters, shown ∈ escapeLetters := by decide
  have hwidths : ∀ shown ∈ shownWidths, shown ∈ escapeWidths := by decide
  cases hshows with
  | plain hprintable _ hne => exact unit?_of_isPrintable hprintable hne rest
  | letter hmem => exact unit?_letter (hletters _ hmem) rest
  | number hmem hlt hpoint => exact unit?_hexDigits (hwidths _ hmem) hlt hpoint rest

/-! ## Literals -/

theorem body?_mark (mark : Mark) (rest : List Char) :
    body? mark (mark.character :: rest) = some ([], rest) := by
  rw [body?, List.head?_cons, if_pos rfl, List.tail_cons]

theorem body?_of_unit? {mark : Mark} {text rest : List Char} {points : CodeText}
    (hhead : text.head? ≠ some mark.character) (hunit : unit? text = some (points, rest)) :
    body? mark text = (body? mark rest).map fun parts ↦ (points ++ parts.1, parts.2) := by
  rw [body?, if_neg hhead]
  split
  · next hfound =>
    rw [hunit] at hfound
    cases hfound
  · next hfound =>
    rw [hunit] at hfound
    cases hfound
    rfl

/-- What is written for a text is read up to the mark after it. -/
theorem body?_flatMap (mark : Mark) (text : CodeText) (rest : List Char) :
    body? mark (text.flatMap (escapePoint mark.character) ++ mark.character :: rest) =
      some (text, rest) := by
  induction text with
  | nil => exact body?_mark mark rest
  | cons point others ih =>
    obtain ⟨first, tail, hfirst, hne⟩ := (shows_escapePoint mark point).exists_eq_cons
    have hhead : (escapePoint mark.character point ++
        (others.flatMap (escapePoint mark.character) ++ mark.character :: rest)).head? ≠
          some mark.character := by
      rw [hfirst]
      exact fun heq ↦ hne (Option.some.inj heq)
    calc
      body? mark ((point :: others).flatMap (escapePoint mark.character) ++
          mark.character :: rest) =
          (body? mark (others.flatMap (escapePoint mark.character) ++ mark.character :: rest)).map
            fun parts ↦ ([point] ++ parts.1, parts.2) := by
        rw [List.flatMap_cons, List.append_assoc,
          body?_of_unit? hhead (unit?_of_shows (shows_escapePoint mark point) _)]
      _ = some (point :: others, rest) := by
        rw [ih]
        rfl

/-- The literal of a text is read as that text. A third mark after the two of an empty text would
not be part of the literal, and so it must not follow. -/
theorem read?_encode (text : CodeText) {rest : List Char}
    (hrest : rest.head? ≠ some (mark text)) : read? (encode text ++ rest) = some (text, rest) := by
  obtain ⟨mark, hmark⟩ := exists_mark_eq text
  rw [hmark] at hrest
  have hread : mark? mark.character = some mark := Scanner.mark?_eq_some_iff.mpr rfl
  have hshort : ¬[mark.character, mark.character].isPrefixOf
      (text.flatMap (escapePoint mark.character) ++ mark.character :: rest) := by
    rw [List.isPrefixOf_iff_prefix]
    cases text with
    | nil =>
      rw [List.flatMap_nil, List.nil_append, List.cons_prefix_cons]
      rintro ⟨_, tail, rfl⟩
      exact hrest rfl
    | cons point others =>
      obtain ⟨first, tail, hfirst, hne⟩ := (shows_escapePoint mark point).exists_eq_cons
      rw [List.flatMap_cons, hfirst, List.cons_append, List.cons_append, List.cons_prefix_cons]
      exact fun hprefix ↦ hne hprefix.1.symm
  rw [encode, hmark, List.cons_append, List.append_assoc, List.singleton_append, read?, hread,
    Option.bind_eq_bind, Option.bind_some, guard, if_pos hshort]
  exact body?_flatMap mark text rest

/-- The text of a literal that nothing follows. -/
def decode? (literal : List Char) : Option CodeText :=
  match read? literal with
  | some (text, []) => some text
  | _ => none

/-- Every text is read back from its literal. -/
theorem decode?_encode (text : CodeText) : decode? (encode text) = some text := by
  have hend : [].head? ≠ some (mark text) := Option.some_ne_none _ ∘ Eq.symm
  have hread := read?_encode text hend
  rw [List.append_nil] at hread
  rw [decode?, hread]

end TemplateCalls.Text.Quoted
