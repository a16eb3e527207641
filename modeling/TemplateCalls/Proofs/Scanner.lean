import Mathlib.Data.List.Basic

/-!
# Scanning source text

A scanner goes through source text character by character and keeps track of what has been opened:
brackets of three kinds, quoted texts on one line or over several, and comments. A backslash in a
quoted text escapes the character after it. The scanner stops at a bracket that closes nothing or
something of another kind, and at a line end in a quoted text that must not go beyond its line.

A text is self-contained if the scanner goes through it and nothing is left open. Such a text can
stand between any two characters of other code, as long as the one after it is no quotation mark,
and the scanner takes no notice of it.
-/

namespace TemplateCalls

namespace Scanner

inductive Bracket where
  | round
  | square
  | curly
  deriving DecidableEq, Repr

inductive Mark where
  | single
  | double
  deriving DecidableEq, Repr

/-- What the scanner is in. After one quotation mark it is open how the quoted text will end; a
second one makes it an empty text on one line, unless there is a third. -/
inductive Mode where
  | code
  | comment
  | opened (mark : Mark)
  | empty (mark : Mark)
  | short (mark : Mark)
  | shortEscape (mark : Mark)
  | shortReturn (mark : Mark)
  | long (mark : Mark) (closing : Nat)
  | longEscape (mark : Mark)
  deriving DecidableEq, Repr

/-- The mode and the open brackets, the innermost first. -/
structure State where
  mode : Mode
  brackets : List Bracket
  deriving DecidableEq, Repr

def opening? : Char → Option Bracket
  | '(' => some .round
  | '[' => some .square
  | '\x7b' => some .curly
  | _ => none

def closing? : Char → Option Bracket
  | ')' => some .round
  | ']' => some .square
  | '\x7d' => some .curly
  | _ => none

def Mark.character : Mark → Char
  | .single => '\''
  | .double => '"'

def mark? (character : Char) : Option Mark :=
  if character = '\'' then some .single else if character = '"' then some .double else none

def isLineEnd (character : Char) : Bool := character == '\n' || character == '\r'

def readCode (brackets : List Bracket) (character : Char) : Option State :=
  match mark? character, opening? character, closing? character with
  | some mark, _, _ => some ⟨.opened mark, brackets⟩
  | none, some bracket, _ => some ⟨.code, bracket :: brackets⟩
  | none, none, some bracket =>
    match brackets with
    | innermost :: outer => if innermost = bracket then some ⟨.code, outer⟩ else none
    | [] => none
  | none, none, none => some ⟨if character == '#' then .comment else .code, brackets⟩

def readShort (mark : Mark) (character : Char) : Option Mode :=
  if character = mark.character then some .code
  else if character = '\\' then some (.shortEscape mark)
  else if isLineEnd character then none
  else some (.short mark)

/-- Reads a character of a text that is quoted over several lines, after as many marks in a row. -/
def readLong (mark : Mark) (closing : Nat) (character : Char) : Mode :=
  if character = mark.character then if closing = 2 then .code else .long mark (closing + 1)
  else if character = '\\' then .longEscape mark
  else .long mark 0

/-- Reads a character. A line end of two characters is escaped as one. -/
def step (state : State) (character : Char) : Option State :=
  match state.mode with
  | .code => readCode state.brackets character
  | .comment => some (if isLineEnd character then ⟨.code, state.brackets⟩ else state)
  | .opened mark =>
    if character = mark.character then some ⟨.empty mark, state.brackets⟩
    else (readShort mark character).map (⟨·, state.brackets⟩)
  | .empty mark =>
    if character = mark.character then some ⟨.long mark 0, state.brackets⟩
    else readCode state.brackets character
  | .short mark => (readShort mark character).map (⟨·, state.brackets⟩)
  | .shortEscape mark =>
    some ⟨if character = '\r' then .shortReturn mark else .short mark, state.brackets⟩
  | .shortReturn mark =>
    if character = '\n' then some ⟨.short mark, state.brackets⟩
    else (readShort mark character).map (⟨·, state.brackets⟩)
  | .long mark closing => some ⟨readLong mark closing character, state.brackets⟩
  | .longEscape mark => some ⟨.long mark 0, state.brackets⟩

def scan (state : State) (text : List Char) : Option State := text.foldlM step state

def start : State := ⟨.code, []⟩

def State.isPlain (state : State) : Bool :=
  state.brackets.isEmpty &&
    match state.mode with
    | .code | .empty _ => true
    | _ => false

end Scanner

/-- Whether everything that a text opens is closed within it, and nothing else. -/
def isSelfContained (text : String) : Bool :=
  (Scanner.scan Scanner.start text.toList).any Scanner.State.isPlain

namespace Scanner

theorem mark?_eq_some_iff {character : Char} {mark : Mark} :
    mark? character = some mark ↔ character = mark.character := by
  cases mark <;> by_cases hsingle : character = '\'' <;> simp [mark?, Mark.character, hsingle]

theorem step_short (mark : Mark) (brackets : List Bracket) (character : Char) :
    step ⟨.short mark, brackets⟩ character =
      (readShort mark character).map (⟨·, brackets⟩) := rfl

/-- After the first mark any other character is read as in a text on one line. -/
theorem step_opened_of_ne {mark : Mark} {character : Char} (brackets : List Bracket)
    (hne : character ≠ mark.character) :
    step ⟨.opened mark, brackets⟩ character = step ⟨.short mark, brackets⟩ character :=
  if_neg hne

theorem step_shortEscape_of_ne {character : Char} (mark : Mark) (brackets : List Bracket)
    (hne : character ≠ '\r') :
    step ⟨.shortEscape mark, brackets⟩ character = some ⟨.short mark, brackets⟩ := by
  simp only [step, if_neg hne]

theorem scan_cons (state : State) (character : Char) (rest : List Char) :
    scan state (character :: rest) = (step state character).bind (scan · rest) := rfl

theorem scan_append (state : State) (first second : List Char) :
    scan state (first ++ second) = (scan state first).bind (scan · second) := by
  rw [scan, List.foldlM_append]
  rfl

/-- A text of characters that each leave the state as it is leaves it as it is. -/
theorem scan_of_forall_step {state : State} {text : List Char}
    (hstep : ∀ character ∈ text, step state character = some state) :
    scan state text = some state := by
  induction text with
  | nil => rfl
  | cons character rest ih =>
    rw [List.forall_mem_cons] at hstep
    rw [scan_cons, hstep.1, Option.bind_some, ih hstep.2]

/-! ## More brackets around a text -/

/-- The state with more brackets around those that are open. -/
def State.within (state : State) (outer : List Bracket) : State :=
  { state with brackets := state.brackets ++ outer }

theorem readCode_within {brackets : List Bracket} {character : Char} {next : State}
    (hread : readCode brackets character = some next) (outer : List Bracket) :
    readCode (brackets ++ outer) character = some (next.within outer) := by
  unfold readCode at hread ⊢
  cases hmark : mark? character with
  | some mark =>
    simp only [hmark, Option.some.injEq] at hread ⊢
    rw [← hread]
    rfl
  | none =>
    cases hopening : opening? character with
    | some bracket =>
      simp only [hmark, hopening, Option.some.injEq] at hread ⊢
      rw [← hread]
      rfl
    | none =>
      cases hclosing : closing? character with
      | none =>
        simp only [hmark, hopening, hclosing, Option.some.injEq] at hread ⊢
        rw [← hread]
        rfl
      | some bracket =>
        cases brackets with
        | nil => simp [hmark, hopening, hclosing] at hread
        | cons innermost rest =>
          simp only [hmark, hopening, hclosing, List.cons_append, Option.ite_none_right_eq_some,
            Option.some.injEq] at hread ⊢
          refine ⟨hread.1, ?_⟩
          rw [← hread.2]
          rfl

/-- What the scanner can read, it can read between more brackets, at which only plain code looks. -/
theorem step_within {state next : State} {character : Char}
    (hstep : step state character = some next) (outer : List Bracket) :
    step (state.within outer) character = some (next.within outer) := by
  rcases state with ⟨mode, brackets⟩
  cases mode with
  | code => exact readCode_within hstep outer
  | empty mark =>
    simp only [step] at hstep
    split at hstep
    · next hmark =>
      cases hstep
      exact if_pos hmark
    · next hmark => exact (if_neg hmark).trans (readCode_within hstep outer)
  | comment =>
    simp only [step, State.within, Option.some.injEq] at hstep ⊢
    rw [← hstep]
    split <;> rfl
  | opened mark | shortReturn mark =>
    simp only [step] at hstep
    split at hstep
    · next hfirst =>
      cases hstep
      exact if_pos hfirst
    · next hfirst =>
      obtain ⟨mode, hmode, rfl⟩ := Option.map_eq_some_iff.mp hstep
      simp only [step, State.within, if_neg hfirst, hmode, Option.map_some]
  | short mark =>
    obtain ⟨mode, hmode, rfl⟩ := Option.map_eq_some_iff.mp hstep
    simp only [step, State.within, hmode, Option.map_some]
  | shortEscape mark | long mark closing | longEscape mark =>
    simp only [step, State.within, Option.some.injEq] at hstep ⊢
    rw [← hstep]

theorem scan_within {state next : State} {text : List Char} (hscan : scan state text = some next)
    (outer : List Bracket) : scan (state.within outer) text = some (next.within outer) := by
  induction text generalizing state with
  | nil =>
    cases hscan
    rfl
  | cons character rest ih =>
    rw [scan_cons] at hscan ⊢
    obtain ⟨middle, hstep, hrest⟩ := Option.bind_eq_some_iff.mp hscan
    rw [step_within hstep outer, Option.bind_some, ih hrest]

/-! ## Self-contained texts -/

theorem isPlain_iff {state : State} :
    state.isPlain = true ↔ state = start ∨ ∃ mark, state = ⟨.empty mark, []⟩ := by
  rcases state with ⟨mode, brackets⟩
  cases brackets <;> cases mode <;> simp [State.isPlain, start]

theorem isSelfContained_iff {text : String} :
    isSelfContained text = true ↔
      ∃ state, scan start text.toList = some state ∧ state.isPlain = true := by
  rw [isSelfContained, Option.any_eq_true]

/-- A state of plain code lets a character that is no mark continue as if nothing had been. -/
theorem step_of_isPlain {state : State} {character : Char} (hplain : state.isPlain = true)
    (hcharacter : mark? character = none) (outer : List Bracket) :
    step (state.within outer) character = step (start.within outer) character := by
  rcases isPlain_iff.mp hplain with rfl | ⟨mark, rfl⟩
  · rfl
  · have hne : character ≠ mark.character := by
      intro heq
      rw [mark?_eq_some_iff.mpr heq] at hcharacter
      cases hcharacter
    exact if_neg hne

/-- Whether a text begins with a character that is no mark. -/
def startsPlain (text : List Char) : Bool := text.head?.any fun character ↦ (mark? character).isNone

theorem startsPlain_append {first : List Char} (hfirst : startsPlain first = true)
    (second : List Char) : startsPlain (first ++ second) = true := by
  cases first with
  | nil => cases hfirst
  | cons character rest => exact hfirst

theorem scan_append_of_eq_some {state next : State} {first : List Char}
    (hscan : scan state first = some next) (second : List Char) :
    scan state (first ++ second) = scan next second := by
  rw [scan_append, hscan, Option.bind_some]

/-- The scanner takes no notice of a self-contained text before other code. -/
theorem scan_append_of_isSelfContained {text : String} {rest : List Char}
    (htext : isSelfContained text = true) (hrest : startsPlain rest = true)
    (brackets : List Bracket) :
    scan ⟨.code, brackets⟩ (text.toList ++ rest) = scan ⟨.code, brackets⟩ rest := by
  obtain ⟨state, hscan, hplain⟩ := isSelfContained_iff.mp htext
  have hwithin : scan ⟨.code, brackets⟩ text.toList = some (state.within brackets) :=
    scan_within hscan brackets
  cases rest with
  | nil => cases hrest
  | cons character rest =>
    have hcharacter : mark? character = none := Option.isNone_iff_eq_none.mp hrest
    rw [scan_append_of_eq_some hwithin, scan_cons, scan_cons,
      step_of_isPlain hplain hcharacter brackets]
    rfl

end Scanner

end TemplateCalls
