import Mathlib.Data.List.TakeWhile
import TemplateCalls.Argument
import TemplateCalls.Proofs.Patterns

/-!
# Arguments on the command line

Which texts on the command line give an argument a key, stated as a grammar of names, numerals and
a single equals sign: an argument has a key exactly if its text follows the grammar, and otherwise
it is positional and holds the text as it is. Nothing is lost in either case, since a positional
argument and one with a key are told apart, so different command lines give different arguments. The
grammar is also given as a pattern, in which nothing says that the equals sign is the first one.
-/

namespace TemplateCalls.Argument

open Text (Pattern)

/-! ## The grammar -/

def IsLetter (character : Char) : Prop :=
  'A' ≤ character ∧ character ≤ 'Z' ∨ 'a' ≤ character ∧ character ≤ 'z'

def IsDigit (character : Char) : Prop := '0' ≤ character ∧ character ≤ '9'

/-- A letter or an underscore, followed by letters, digits and underscores. -/
def IsName (text : List Char) : Prop :=
  ∃ first rest, text = first :: rest ∧ (IsLetter first ∨ first = '_') ∧
    ∀ character ∈ rest, IsLetter character ∨ IsDigit character ∨ character = '_'

def IsNumeral (text : List Char) : Prop := text ≠ [] ∧ ∀ character ∈ text, IsDigit character

/-- A text gives an expression a key: up to its first equals sign stands a name or a numeral, and
the sign is not doubled. -/
structure IsAssignment (raw key expression : String) : Prop where
  raw_eq : raw = key ++ "=" ++ expression
  first_sign : '=' ∉ key.toList
  key_reads : IsName key.toList ∨ IsNumeral key.toList
  single_sign : expression.toList.head? ≠ some '='

/-! ## Keys -/

section key

variable {key : List Char}

theorem isDigit_iff (character : Char) : character.isDigit = true ↔ IsDigit character := by
  rw [Char.isDigit, Bool.and_eq_true, decide_eq_true_eq, decide_eq_true_eq]
  rfl

theorem isAlpha_iff (character : Char) : character.isAlpha = true ↔ IsLetter character := by
  have hupper : character.isUpper = true ↔ 'A' ≤ character ∧ character ≤ 'Z' :=
    decide_eq_true_iff
  have hlower : character.isLower = true ↔ 'a' ≤ character ∧ character ≤ 'z' :=
    Bool.and_eq_true_iff.trans (and_congr decide_eq_true_iff decide_eq_true_iff)
  calc
    character.isAlpha = true ↔ character.isUpper = true ∨ character.isLower = true :=
      Bool.or_eq_true_iff
    _ ↔ IsLetter character := or_congr hupper hlower

theorem isAsciiIdentifierStart_iff (character : Char) :
    Text.isAsciiIdentifierStart character = true ↔ IsLetter character ∨ character = '_' := by
  rw [Text.isAsciiIdentifierStart, Bool.or_eq_true, isAlpha_iff, beq_iff_eq]

theorem isAsciiIdentifierPart_iff (character : Char) :
    Text.isAsciiIdentifierPart character = true ↔
      IsLetter character ∨ IsDigit character ∨ character = '_' := by
  rw [Text.isAsciiIdentifierPart, Char.isAlphanum, Bool.or_eq_true, Bool.or_eq_true, isAlpha_iff,
    isDigit_iff, beq_iff_eq, or_assoc]

theorem isAsciiIdentifier_iff : Text.isAsciiIdentifier key = true ↔ IsName key := by
  cases key with
  | nil =>
    have hname : ¬IsName [] := fun ⟨first, rest, hcons, _⟩ ↦ List.cons_ne_nil first rest hcons.symm
    exact ⟨fun hnil ↦ absurd hnil Bool.false_ne_true, fun hnil ↦ absurd hnil hname⟩
  | cons first rest =>
    simp only [Text.isAsciiIdentifier, Bool.and_eq_true, List.all_eq_true,
      isAsciiIdentifierStart_iff, isAsciiIdentifierPart_iff]
    constructor
    · exact fun hname ↦ ⟨first, rest, rfl, hname⟩
    · rintro ⟨_, _, hcons, hname⟩
      cases hcons
      exact hname

theorem isNumeral_iff : Decimal.isNumeral key = true ↔ IsNumeral key := by
  rw [Decimal.isNumeral, Bool.and_eq_true, Bool.not_eq_true', List.isEmpty_eq_false_iff,
    List.all_eq_true]
  simp only [isDigit_iff]
  rfl

instance : DecidablePred IsName := fun _ ↦ decidable_of_iff _ isAsciiIdentifier_iff

instance : DecidablePred IsNumeral := fun _ ↦ decidable_of_iff _ isNumeral_iff

/-- What the command line takes for a key is a name or a numeral. -/
theorem isCommandLineKey_iff : isCommandLineKey key = true ↔ IsName key ∨ IsNumeral key := by
  rw [isCommandLineKey, Bool.or_eq_true, isAsciiIdentifier_iff, isNumeral_iff]

/-- A name is no numeral, since it does not begin with a digit. -/
theorem IsName.not_isNumeral (hname : IsName key) : ¬IsNumeral key := by
  obtain ⟨first, rest, rfl, hfirst, -⟩ := hname
  intro hnumeral
  have hdigit : IsDigit first := hnumeral.2 first List.mem_cons_self
  rcases hfirst with (⟨hupper, -⟩ | ⟨hlower, -⟩) | rfl
  · exact absurd (Char.le_trans hupper hdigit.2) (by decide)
  · exact absurd (Char.le_trans hlower hdigit.2) (by decide)
  · exact absurd hdigit.2 (by decide)

/-- The characters of a key on the command line. -/
theorem isAsciiIdentifierPart_of_mem (hkey : IsName key ∨ IsNumeral key) {character : Char}
    (hmem : character ∈ key) : Text.isAsciiIdentifierPart character = true := by
  rw [isAsciiIdentifierPart_iff]
  rcases hkey with ⟨first, rest, rfl, hfirst, hrest⟩ | ⟨-, hdigits⟩
  · rcases List.mem_cons.mp hmem with rfl | hmem
    · exact hfirst.imp_right .inr
    · exact hrest character hmem
  · exact .inr (.inl (hdigits character hmem))

theorem key_ne_nil (hkey : IsName key ∨ IsNumeral key) : key ≠ [] := by
  rcases hkey with ⟨first, rest, rfl, -⟩ | ⟨hnonempty, -⟩
  · exact List.cons_ne_nil first rest
  · exact hnonempty

/-- A text without one of the characters of a pattern does not hold the pattern. -/
theorem occursIn_eq_false {pattern text : List Char} {character : Char}
    (hpattern : character ∈ pattern) (htext : character ∉ text) :
    occursIn pattern text = false := by
  induction text with
  | nil => exact List.isEmpty_eq_false_iff.mpr (List.ne_nil_of_mem hpattern)
  | cons first rest ih =>
    have hbegins : pattern.isPrefixOf (first :: rest) = false := by
      rw [← Bool.not_eq_true, List.isPrefixOf_iff_prefix]
      exact fun hbegins ↦ htext (hbegins.subset hpattern)
    rw [occursIn, hbegins, Bool.false_or, ih fun hmem ↦ htext (List.mem_cons_of_mem first hmem)]

/-- A key on the command line mentions no scope, so it is an index or a literal name. -/
theorem ofPair_of_key {key : String} (value : String)
    (hkey : IsName key.toList ∨ IsNumeral key.toList) :
    ofPair (some key) value =
      if Decimal.isNumeral key.toList then index key value else literal key value := by
  have hnonempty : key.isEmpty = false := by
    rw [← Bool.not_eq_true, String.isEmpty_iff]
    exact fun hempty ↦ key_ne_nil hkey (by rw [hempty]; rfl)
  have hscope : occursIn scopeMark.toList key.toList = false := by
    have hpoint : '.' ∈ scopeMark.toList := by decide
    have hkeyPoint : '.' ∉ key.toList := fun hmem ↦
      absurd (isAsciiIdentifierPart_of_mem hkey hmem) (by decide)
    exact occursIn_eq_false hpoint hkeyPoint
  simp only [ofPair, hnonempty, hscope, isIndexKey, Bool.false_eq_true, if_false]

end key

/-! ## Reading an argument -/

section read

variable {raw key expression : String}

theorem ofCommandLine_of_not_mem (hsign : '=' ∉ raw.toList) :
    ofCommandLine raw = positional raw := by
  have hdrop : raw.toList.dropWhile (· != '=') = [] :=
    List.dropWhile_eq_nil_iff.mpr fun _ hmem ↦ bne_iff_ne.mpr (ne_of_mem_of_not_mem hmem hsign)
  rw [ofCommandLine, hdrop]

/-- A text is read by its parts before and after the first equals sign. -/
theorem ofCommandLine_append (hfirst : '=' ∉ key.toList) :
    ofCommandLine (key ++ "=" ++ expression) =
      if isCommandLineKey key.toList && expression.toList.head? != some '=' then
        ofPair (some key) expression
      else positional (key ++ "=" ++ expression) := by
  have hall : ∀ character ∈ key.toList, (character != '=') = true :=
    fun _ hmem ↦ bne_iff_ne.mpr (ne_of_mem_of_not_mem hmem hfirst)
  have hraw : (key ++ "=" ++ expression).toList = key.toList ++ '=' :: expression.toList := by
    rw [String.toList_append, String.toList_append, List.append_assoc]
    rfl
  have htake : (key.toList ++ '=' :: expression.toList).takeWhile (· != '=') = key.toList := by
    rw [List.takeWhile_append_of_pos hall, List.takeWhile_cons_of_neg (by decide), List.append_nil]
  have hdrop : (key.toList ++ '=' :: expression.toList).dropWhile (· != '=') =
      '=' :: expression.toList := by
    rw [List.dropWhile_append_of_pos hall, List.dropWhile_cons_of_neg (by decide)]
  rw [ofCommandLine, hraw, htake, hdrop]
  simp only [String.ofList_toList]

/-- A text that holds an equals sign splits at the first one. -/
theorem exists_append_of_mem (hsign : '=' ∈ raw.toList) :
    ∃ key expression : String, raw = key ++ "=" ++ expression ∧ '=' ∉ key.toList := by
  obtain ⟨front, rest, hraw, hfront⟩ := List.eq_append_cons_of_mem hsign
  refine ⟨.ofList front, .ofList rest, ?_, by rwa [String.toList_ofList]⟩
  calc
    raw = .ofList (front ++ '=' :: rest) := by rw [← hraw, String.ofList_toList]
    _ = .ofList (front ++ ['='] ++ rest) := by rw [List.append_assoc, List.singleton_append]
    _ = .ofList front ++ "=" ++ .ofList rest := by rw [String.ofList_append, String.ofList_append]

/-- A key without an equals sign makes an assignment exactly if it suits and no second sign follows.
-/
theorem isAssignment_append_iff (hfirst : '=' ∉ key.toList) :
    IsAssignment (key ++ "=" ++ expression) key expression ↔
      (isCommandLineKey key.toList && expression.toList.head? != some '=') = true := by
  rw [Bool.and_eq_true, isCommandLineKey_iff, bne_iff_ne]
  exact ⟨fun h ↦ ⟨h.key_reads, h.single_sign⟩, fun h ↦ ⟨rfl, hfirst, h.1, h.2⟩⟩

/-- An assignment is an index or a literal argument by its key. -/
theorem ofCommandLine_of_isAssignment (hassignment : IsAssignment raw key expression) :
    ofCommandLine raw =
      if Decimal.isNumeral key.toList then index key expression else literal key expression := by
  have hreads := hassignment.raw_eq ▸ hassignment
  rw [hassignment.raw_eq, ofCommandLine_append hassignment.first_sign,
    if_pos ((isAssignment_append_iff hassignment.first_sign).mp hreads)]
  exact ofPair_of_key expression hassignment.key_reads

/-- Whatever is no assignment is positional as it stands. -/
theorem ofCommandLine_of_not_isAssignment
    (hassignment : ∀ key expression, ¬IsAssignment raw key expression) :
    ofCommandLine raw = positional raw := by
  by_cases hsign : '=' ∈ raw.toList
  · obtain ⟨key, expression, rfl, hfirst⟩ := exists_append_of_mem hsign
    rw [ofCommandLine_append hfirst,
      if_neg ((isAssignment_append_iff hfirst).not.mp (hassignment key expression))]
  · exact ofCommandLine_of_not_mem hsign

theorem ofCommandLine_of_name (hassignment : IsAssignment raw key expression)
    (hname : IsName key.toList) : ofCommandLine raw = literal key expression := by
  have hnumeral : Decimal.isNumeral key.toList = false := by
    rw [← Bool.not_eq_true, isNumeral_iff]
    exact hname.not_isNumeral
  rw [ofCommandLine_of_isAssignment hassignment, hnumeral, if_neg Bool.false_ne_true]

theorem ofCommandLine_of_numeral (hassignment : IsAssignment raw key expression)
    (hnumeral : IsNumeral key.toList) : ofCommandLine raw = index key expression := by
  rw [ofCommandLine_of_isAssignment hassignment, if_pos (isNumeral_iff.mpr hnumeral)]

/-- An argument is read by the grammar, or it is positional as a whole. -/
theorem ofCommandLine_cases (raw : String) :
    (∃ key expression, IsAssignment raw key expression ∧
        (ofCommandLine raw = literal key expression ∨ ofCommandLine raw = index key expression)) ∨
      (∀ key expression, ¬IsAssignment raw key expression) ∧
        ofCommandLine raw = positional raw := by
  by_cases hassignment : ∃ key expression, IsAssignment raw key expression
  · obtain ⟨key, expression, hassignment⟩ := hassignment
    have hread := hassignment.key_reads.imp (ofCommandLine_of_name hassignment)
      (ofCommandLine_of_numeral hassignment)
    exact .inl ⟨key, expression, hassignment, hread⟩
  · simp only [not_exists] at hassignment
    exact .inr ⟨hassignment, ofCommandLine_of_not_isAssignment hassignment⟩

theorem isKeyed_ofCommandLine_iff (raw : String) :
    (ofCommandLine raw).isKeyed = true ↔ ∃ key expression, IsAssignment raw key expression := by
  rcases ofCommandLine_cases raw with ⟨key, expression, hassignment, hread⟩ | ⟨hnone, hread⟩
  · have hkeyed : (ofCommandLine raw).isKeyed = true := by
      rcases hread with hread | hread <;> rw [hread] <;> rfl
    exact iff_of_true hkeyed ⟨key, expression, hassignment⟩
  · have hpositional : (ofCommandLine raw).isKeyed = false := by rw [hread]; rfl
    refine iff_of_false (Bool.eq_false_iff.mp hpositional) ?_
    exact fun ⟨key, expression, hassignment⟩ ↦ hnone key expression hassignment

theorem kind_ofCommandLine_ne_computed (raw : String) : (ofCommandLine raw).kind ≠ .computed := by
  rcases ofCommandLine_cases raw with ⟨key, expression, -, hread | hread⟩ | ⟨-, hread⟩
  all_goals
    rw [hread]
    exact KeyKind.noConfusion

/-- The text on the command line that an argument is read from. -/
def commandLineText (argument : Argument) : String :=
  match argument.key with
  | none => argument.value
  | some key => key ++ "=" ++ argument.value

/-- The text of an argument can be put together again from its parts. -/
theorem commandLineText_ofCommandLine (raw : String) :
    (ofCommandLine raw).commandLineText = raw := by
  rcases ofCommandLine_cases raw with ⟨key, expression, hassignment, hread | hread⟩ | ⟨-, hread⟩
  · rw [hread, hassignment.raw_eq]
    rfl
  · rw [hread, hassignment.raw_eq]
    rfl
  · rw [hread]
    rfl

end read

/-! ## The grammar as a pattern -/

def namePattern : Pattern :=
  (Pattern.one Text.isAsciiIdentifierStart).followedBy (.many (.one Text.isAsciiIdentifierPart))

def numeralPattern : Pattern := .oneOrMore (.one Char.isDigit)

/-- Nothing, or any characters of which the first is no equals sign. -/
def expressionPattern : Pattern :=
  .optional ((Pattern.one (· != '=')).followedBy (.many (.one fun _ ↦ true)))

def assignmentPattern : Pattern :=
  .sequenceOf [.choiceOf [namePattern, numeralPattern], .character '=', expressionPattern]

section pattern

variable {text : List Char}

theorem mem_language_namePattern_iff : text ∈ namePattern.language ↔ IsName text := by
  rw [namePattern, Pattern.mem_language_one_followedBy_many_iff, IsName]
  simp only [isAsciiIdentifierStart_iff, isAsciiIdentifierPart_iff]

theorem mem_language_numeralPattern_iff : text ∈ numeralPattern.language ↔ IsNumeral text := by
  rw [numeralPattern, Pattern.oneOrMore, Pattern.mem_language_one_followedBy_many_iff, IsNumeral]
  simp only [isDigit_iff]
  constructor
  · rintro ⟨first, rest, rfl, hfirst, hrest⟩
    exact ⟨List.cons_ne_nil first rest, List.forall_mem_cons.mpr ⟨hfirst, hrest⟩⟩
  · rintro ⟨hnonempty, hdigits⟩
    obtain ⟨first, rest, rfl⟩ := List.exists_cons_of_ne_nil hnonempty
    exact ⟨first, rest, rfl, List.forall_mem_cons.mp hdigits⟩

theorem mem_language_expressionPattern_iff :
    text ∈ expressionPattern.language ↔ text.head? ≠ some '=' := by
  rw [expressionPattern, Pattern.optional, Pattern.language, Language.mem_add,
    Pattern.mem_language_one_followedBy_many_iff]
  cases text with
  | nil =>
    have hhead : ([] : List Char).head? ≠ some '=' := by decide
    exact iff_of_true (.inl rfl) hhead
  | cons first rest =>
    rw [List.head?_cons, Ne, Option.some.injEq, ← Ne, ← bne_iff_ne]
    constructor
    · rintro (hnil | ⟨_, _, hcons, hfirst, -⟩)
      · cases hnil
      · cases hcons
        exact hfirst
    · exact fun hfirst ↦ .inr ⟨first, rest, rfl, hfirst, fun _ _ ↦ rfl⟩

/-- The pattern describes a key, an equals sign and an expression that begins with no other one. -/
theorem mem_language_assignmentPattern_iff :
    text ∈ assignmentPattern.language ↔
      ∃ key, (IsName key ∨ IsNumeral key) ∧
        ∃ expression, expression.head? ≠ some '=' ∧ key ++ '=' :: expression = text := by
  have hkey (key : List Char) :
      key ∈ (Pattern.choiceOf [namePattern, numeralPattern]).language ↔
        IsName key ∨ IsNumeral key := by
    rw [Pattern.language_choiceOf, List.map_cons, List.map_cons, List.map_nil, List.sum_cons,
      List.sum_cons, List.sum_nil, add_zero, Language.mem_add, mem_language_namePattern_iff,
      mem_language_numeralPattern_iff]
  have hrest (rest : List Char) :
      rest ∈ (Pattern.character '=').language * expressionPattern.language ↔
        ∃ expression, expression.head? ≠ some '=' ∧ '=' :: expression = rest := by
    rw [Language.mem_mul]
    constructor
    · rintro ⟨_, ⟨sign, hsign, rfl⟩, expression, hexpression, hrest⟩
      rw [beq_iff_eq.mp hsign] at hrest
      exact ⟨expression, mem_language_expressionPattern_iff.mp hexpression, hrest⟩
    · rintro ⟨expression, hexpression, hrest⟩
      exact ⟨['='], ⟨'=', rfl, rfl⟩, expression,
        mem_language_expressionPattern_iff.mpr hexpression, hrest⟩
  rw [assignmentPattern, Pattern.language_sequenceOf, List.map_cons, List.map_cons, List.map_cons,
    List.map_nil, List.prod_cons, List.prod_cons, List.prod_cons, List.prod_nil, mul_one,
    Language.mem_mul]
  simp only [hkey, hrest]
  constructor
  · rintro ⟨key, hkey, _, ⟨expression, hexpression, rfl⟩, htext⟩
    exact ⟨key, hkey, expression, hexpression, htext⟩
  · rintro ⟨key, hkey, expression, hexpression, htext⟩
    exact ⟨key, hkey, _, ⟨expression, hexpression, rfl⟩, htext⟩

/-- The pattern accepts exactly the assignments: it leaves open at which sign it splits, but a key
holds none. -/
theorem accepts_assignmentPattern_iff (raw : String) :
    assignmentPattern.accepts raw.toList = true ↔
      ∃ key expression, IsAssignment raw key expression := by
  rw [Pattern.accepts_iff_mem_language, mem_language_assignmentPattern_iff]
  constructor
  · rintro ⟨key, hkey, expression, hexpression, hraw⟩
    have hfirst : '=' ∉ key := fun hmem ↦
      absurd (isAsciiIdentifierPart_of_mem hkey hmem) (by decide)
    refine ⟨.ofList key, .ofList expression, ?_, ?_, ?_, ?_⟩
    · rw [← String.toList_inj, ← hraw]
      simp [String.toList_append]
    all_goals rwa [String.toList_ofList]
  · rintro ⟨key, expression, hassignment⟩
    refine ⟨key.toList, hassignment.key_reads, expression.toList, hassignment.single_sign, ?_⟩
    rw [hassignment.raw_eq]
    simp [String.toList_append]

end pattern

/-! ## The reading of a command line -/

/-- An argument has a key exactly if its text follows the grammar; it is then read as the key with
its kind and the expression, and otherwise it is positional and holds its text. Different command
lines are read as different arguments. -/
theorem ofCommandLine_grammar :
    (∀ raw : String,
      ((ofCommandLine raw).isKeyed = true ↔ ∃ key expression, IsAssignment raw key expression) ∧
      (∀ key expression, IsAssignment raw key expression → IsNumeral key.toList →
        ofCommandLine raw = ⟨.index, some key, expression⟩) ∧
      (∀ key expression, IsAssignment raw key expression → IsName key.toList →
        ofCommandLine raw = ⟨.literal, some key, expression⟩) ∧
      ((∀ key expression, ¬IsAssignment raw key expression) →
        ofCommandLine raw = ⟨.positional, none, raw⟩) ∧
      (ofCommandLine raw).kind ≠ .computed ∧
      (ofCommandLine raw).isKeyed = assignmentPattern.accepts raw.toList) ∧
    Function.Injective fun raws : List String ↦ raws.map ofCommandLine := by
  refine ⟨fun raw ↦ ⟨isKeyed_ofCommandLine_iff raw, ?_, ?_, ?_, ?_, ?_⟩, ?_⟩
  · exact fun key expression ↦ ofCommandLine_of_numeral
  · exact fun key expression ↦ ofCommandLine_of_name
  · exact ofCommandLine_of_not_isAssignment
  · exact kind_ofCommandLine_ne_computed raw
  · rw [Bool.eq_iff_iff, isKeyed_ofCommandLine_iff, accepts_assignmentPattern_iff]
  · have hinverse : Function.LeftInverse commandLineText ofCommandLine :=
      commandLineText_ofCommandLine
    exact hinverse.injective.list_map

theorem ofCommandLine_grammar_mixed :
    ofCommandLine "007=a=\n=b" = ⟨.index, some "007", "a=\n=b"⟩ ∧
      ofCommandLine "with=" = ⟨.literal, some "with", ""⟩ ∧
        ofCommandLine "7a=self.scope" = ⟨.positional, none, "7a=self.scope"⟩ := by
  have hnumeral : IsAssignment "007=a=\n=b" "007" "a=\n=b" :=
    ⟨by decide, by decide, by decide, by decide⟩
  have hname : IsAssignment "with=" "with" "" := ⟨by decide, by decide, by decide, by decide⟩
  have hneither : ∀ key expression, ¬IsAssignment "7a=self.scope" key expression := by
    intro key expression hassignment
    have hkeyed := (ofCommandLine_grammar.1 "7a=self.scope").1.mpr ⟨key, expression, hassignment⟩
    exact absurd hkeyed (by decide)
  refine ⟨?_, ?_, ?_⟩
  · exact (ofCommandLine_grammar.1 "007=a=\n=b").2.1 "007" "a=\n=b" hnumeral (by decide)
  · exact (ofCommandLine_grammar.1 "with=").2.2.1 "with" "" hname (by decide)
  · exact (ofCommandLine_grammar.1 "7a=self.scope").2.2.2.1 hneither

end TemplateCalls.Argument
