import TemplateCalls.Proofs.QuotedScan
import TemplateCalls.Text.Identifier

/-!
# Lexemes

Generated code is made of words and signs. A word is as many characters in a row as can be part of
an identifier; a blank separates words and is nothing itself, and any other character is a sign.
What is quoted, or stands in a comment, is neither: of a quoted text only the mark that opens it is
left, and of a comment its first character. A word is a name if it is an identifier and none of the
words that the language reserves.
-/

namespace TemplateCalls

open Text (isIdentifier isIdentifierPart isIdentifierStart)

namespace Scanner

/-! ## What is read as code -/

/-- Whether a character is read as plain code, if it can be read at all. -/
def State.readsCode (state : State) (character : Char) : Bool :=
  match state.mode with
  | .code => true
  | .empty mark => character != mark.character
  | _ => false

/-- The characters of a text that are read as plain code, as far as the scanner goes. -/
def codeFrom (state : State) : List Char → List Char
  | [] => []
  | character :: rest =>
    match step state character with
    | none => []
    | some next =>
      if state.readsCode character then character :: codeFrom next rest else codeFrom next rest

variable {state next : State} {character : Char} {text first : List Char}

theorem codeFrom_cons_of_code (brackets : List Bracket) (rest : List Char)
    (hstep : step ⟨.code, brackets⟩ character = some next) :
    codeFrom ⟨.code, brackets⟩ (character :: rest) = character :: codeFrom next rest := by
  simp only [codeFrom, hstep, State.readsCode, if_true]

theorem codeFrom_cons_of_not_code (rest : List Char) (hreads : state.readsCode character = false)
    (hstep : step state character = some next) :
    codeFrom state (character :: rest) = codeFrom next rest := by
  simp only [codeFrom, hstep, hreads, Bool.false_eq_true, if_false]

/-- The code of a text goes on from the state that its first part leads to. -/
theorem codeFrom_append (hscan : scan state first = some next) (second : List Char) :
    codeFrom state (first ++ second) = codeFrom state first ++ codeFrom next second := by
  induction first generalizing state with
  | nil =>
    cases hscan
    rfl
  | cons character rest ih =>
    rw [scan_cons] at hscan
    obtain ⟨middle, hstep, hrest⟩ := Option.bind_eq_some_iff.mp hscan
    simp only [List.cons_append, codeFrom, hstep, ih hrest]
    split <;> rfl

/-- What is read as code does not depend on the brackets around it. -/
theorem codeFrom_within (hscan : scan state text = some next) (outer : List Bracket) :
    codeFrom (state.within outer) text = codeFrom state text := by
  induction text generalizing state with
  | nil => rfl
  | cons character rest ih =>
    rw [scan_cons] at hscan
    obtain ⟨middle, hstep, hrest⟩ := Option.bind_eq_some_iff.mp hscan
    simp only [codeFrom, hstep, step_within hstep outer, ih hrest]
    rfl

/-- A self-contained text is read between brackets as by itself, and other code behind it as if it
were not there. -/
theorem codeFrom_append_of_isSelfContained {text : String} {rest : List Char}
    (htext : isSelfContained text = true) (hrest : startsPlain rest = true)
    (brackets : List Bracket) :
    codeFrom ⟨.code, brackets⟩ (text.toList ++ rest) =
      codeFrom start text.toList ++ codeFrom ⟨.code, brackets⟩ rest := by
  obtain ⟨last, hscan, hplain⟩ := isSelfContained_iff.mp htext
  have hwithin : scan ⟨.code, brackets⟩ text.toList = some (last.within brackets) :=
    scan_within hscan brackets
  have htext' : codeFrom ⟨.code, brackets⟩ text.toList = codeFrom start text.toList :=
    codeFrom_within hscan brackets
  have hlast : codeFrom (last.within brackets) rest = codeFrom ⟨.code, brackets⟩ rest := by
    cases rest with
    | nil => rfl
    | cons character rest =>
      have hmark : mark? character = none := Option.isNone_iff_eq_none.mp hrest
      have hreads : (last.within brackets).readsCode character = true := by
        rcases isPlain_iff.mp hplain with rfl | ⟨mark, rfl⟩
        · rfl
        · refine bne_iff_ne.mpr fun heq ↦ ?_
          rw [mark?_eq_some_iff.mpr heq] at hmark
          cases hmark
      simp only [codeFrom, step_of_isPlain hplain hmark brackets, hreads]
      rfl
  rw [codeFrom_append hwithin, htext', hlast]

/-- Characters that open and close nothing are read as they stand. -/
theorem codeFrom_of_forall_code {brackets : List Bracket}
    (hstep : ∀ character ∈ text, step ⟨.code, brackets⟩ character = some ⟨.code, brackets⟩) :
    codeFrom ⟨.code, brackets⟩ text = text := by
  induction text with
  | nil => rfl
  | cons character rest ih =>
    obtain ⟨hcharacter, hrest⟩ := List.forall_mem_cons.mp hstep
    rw [codeFrom_cons_of_code brackets rest hcharacter, ih hrest]

theorem step_of_isIdentifierPart {character : Char}
    (hpart : isIdentifierPart character = true) (brackets : List Bracket) :
    step ⟨.code, brackets⟩ character = some ⟨.code, brackets⟩ := by
  have hothers : ['\'', '"', '(', '[', '\x7b', ')', ']', '\x7d', '#'].all
      (!isIdentifierPart ·) = true := by decide
  have hne : ∀ other ∈ ['\'', '"', '(', '[', '\x7b', ')', ']', '\x7d', '#'],
      character ≠ other := by
    rintro other hother rfl
    have hother := List.all_eq_true.mp hothers _ hother
    rw [hpart] at hother
    cases hother
  simp only [List.forall_mem_cons] at hne
  obtain ⟨hsingle, hdouble, hround, hsquare, hcurly, hround', hsquare', hcurly', hcomment, _⟩ := hne
  have hmark : mark? character = none := by rw [mark?, if_neg hsingle, if_neg hdouble]
  have hopening : opening? character = none := by
    unfold opening?
    split <;> first | rfl | contradiction
  have hclosing : closing? character = none := by
    unfold closing?
    split <;> first | rfl | contradiction
  simp only [step, readCode, hmark, hopening, hclosing, beq_eq_false_iff_ne.mpr hcomment,
    Bool.false_eq_true, if_false]

/-! ## Quoted texts -/

open Text.Quoted (encode escapePoint exists_mark_eq shows_escapePoint)

theorem codeFrom_of_forall_short {mark : Mark} {brackets : List Bracket}
    (hread : ∀ character ∈ text, readShort mark character = some (.short mark)) :
    codeFrom ⟨.short mark, brackets⟩ text = [] := by
  induction text with
  | nil => rfl
  | cons character rest ih =>
    obtain ⟨hcharacter, hrest⟩ := List.forall_mem_cons.mp hread
    rw [codeFrom_cons_of_not_code rest rfl (step_short_of_readShort brackets hcharacter), ih hrest]

theorem codeFrom_escapePoint (mark : Mark) (brackets : List Bracket) (point : Text.CodePoint) :
    codeFrom ⟨.short mark, brackets⟩ (escapePoint mark.character point) = [] := by
  rcases escapePoint_cases mark point with ⟨character, heq, hread⟩ | ⟨letter, digits, heq, h⟩
  · rw [heq]
    exact codeFrom_of_forall_short (List.forall_mem_singleton.mpr hread)
  · rw [heq, codeFrom_cons_of_not_code _ rfl (step_backslash mark brackets),
      codeFrom_cons_of_not_code _ rfl (step_shortEscape_of_ne mark brackets h.1)]
    exact codeFrom_of_forall_short h.2

/-- What is escaped inside a literal is no code. -/
theorem codeFrom_flatMap_escapePoint (mark : Mark) (brackets : List Bracket) (text : CodeText) :
    codeFrom ⟨.short mark, brackets⟩ (text.flatMap (escapePoint mark.character)) = [] := by
  induction text with
  | nil => rfl
  | cons point rest ih =>
    rw [List.flatMap_cons, codeFrom_append (scan_escapePoint mark brackets point),
      codeFrom_escapePoint, ih, List.append_nil]

/-- Of a literal only its first mark is code. -/
theorem codeFrom_encode (text : CodeText) :
    ∃ mark : Mark, codeFrom start (encode text) = [mark.character] := by
  obtain ⟨mark, hmark⟩ := exists_mark_eq text
  refine ⟨mark, ?_⟩
  have hopened : codeFrom start (encode text) = mark.character :: codeFrom ⟨.opened mark, []⟩
      (text.flatMap (escapePoint mark.character) ++ [mark.character]) := by
    rw [encode, hmark]
    exact codeFrom_cons_of_code [] _ (step_mark mark [])
  rw [hopened, List.cons_eq_cons]
  refine ⟨rfl, ?_⟩
  cases text with
  | nil => cases mark <;> rfl
  | cons point rest =>
    obtain ⟨first, others, hfirst, hne⟩ := (shows_escapePoint mark point).exists_eq_cons
    have hclose : step ⟨.short mark, []⟩ mark.character = some start := by
      rw [step_short, readShort, if_pos rfl]
      rfl
    calc
      codeFrom ⟨.opened mark, []⟩
          ((point :: rest).flatMap (escapePoint mark.character) ++ [mark.character]) =
          codeFrom ⟨.short mark, []⟩
            ((point :: rest).flatMap (escapePoint mark.character) ++ [mark.character]) := by
        rw [List.flatMap_cons, hfirst, List.cons_append, List.cons_append]
        simp only [codeFrom, step_opened_of_ne [] hne]
        rfl
      _ = codeFrom ⟨.short mark, []⟩ [mark.character] := by
        rw [codeFrom_append (scan_flatMap_escapePoint mark [] _), codeFrom_flatMap_escapePoint,
          List.nil_append]
      _ = [] := codeFrom_cons_of_not_code [] rfl hclose

end Scanner

open Scanner

def codeOf (text : String) : List Char := codeFrom start text.toList

/-! ## Words and signs -/

inductive Lexeme where
  | word (text : String)
  | sign (character : Char)
  deriving DecidableEq, Repr

namespace Lexeme

def isSpace (character : Char) : Bool :=
  character == ' ' || character == '\t' || character == '\x0C'

def wordOf (characters : List Char) : List Lexeme :=
  if characters.isEmpty then [] else [.word (.ofList characters)]

/-- The sign that a character is which is no part of a word. -/
def signOf (character : Char) : List Lexeme := if isSpace character then [] else [.sign character]

/-- The lexemes of code that goes on after the beginning of a word. -/
def readFrom (word : List Char) : List Char → List Lexeme
  | [] => wordOf word
  | character :: rest =>
    if isIdentifierPart character then readFrom (word ++ [character]) rest
    else wordOf word ++ signOf character ++ readFrom [] rest

def read (code : List Char) : List Lexeme := readFrom [] code

/-- Characters of a name lengthen the word that is being read. -/
theorem readFrom_append_word {word name : List Char}
    (hname : ∀ character ∈ name, isIdentifierPart character = true) (rest : List Char) :
    readFrom word (name ++ rest) = readFrom (word ++ name) rest := by
  induction name generalizing word with
  | nil => rw [List.append_nil, List.nil_append]
  | cons character others ih =>
    obtain ⟨hcharacter, hothers⟩ := List.forall_mem_cons.mp hname
    rw [List.cons_append, readFrom, if_pos hcharacter, ih hothers, ← List.append_cons]

/-- A character that belongs to no name ends the word in front of it. -/
theorem readFrom_append_cons (word first : List Char) {character : Char} (rest : List Char)
    (hcharacter : isIdentifierPart character = false) :
    readFrom word (first ++ character :: rest) =
      readFrom word first ++ read (character :: rest) := by
  induction first generalizing word with
  | nil =>
    rw [List.nil_append, read, readFrom, readFrom, readFrom, hcharacter]
    simp only [Bool.false_eq_true, if_false, List.append_assoc]
    rfl
  | cons other others ih =>
    rw [List.cons_append, readFrom, readFrom]
    cases isIdentifierPart other with
    | true => exact ih _
    | false =>
      simp only [Bool.false_eq_true, if_false]
      rw [ih, List.append_assoc (wordOf word ++ signOf other)]

/-- A character that is no part of a word separates lexemes. -/
theorem read_append_cons (first : List Char) {character : Char} (rest : List Char)
    (hcharacter : isIdentifierPart character = false) :
    read (first ++ character :: rest) = read first ++ (signOf character ++ read rest) := by
  have hrest : read (character :: rest) = signOf character ++ read rest := by
    rw [read, readFrom, hcharacter]
    rfl
  rw [read, readFrom_append_cons [] first rest hcharacter, hrest]
  rfl

end Lexeme

def lexemes (text : String) : List Lexeme := Lexeme.read (codeOf text)

/-! ## Names -/

def keywords : List String :=
  ["False", "None", "True", "and", "as", "assert", "async", "await", "break", "class", "continue",
   "def", "del", "elif", "else", "except", "finally", "for", "from", "global", "if", "import", "in",
   "is", "lambda", "nonlocal", "not", "or", "pass", "raise", "return", "try", "while", "with",
   "yield"]

def isName (word : String) : Bool := isIdentifier word.toList && !keywords.contains word

end TemplateCalls
