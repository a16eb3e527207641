import TemplateCalls.Proofs.Lexemes
import TemplateCalls.Proofs.SelfContainedCode

/-!
# Names in generated statements

A statement loads names and binds names. It binds the name before a single `=` at its beginning, and
any name before `:=`; inside of it, a word before `=` is a keyword argument. A word behind a dot is
an attribute, and any other name is loaded. The code that stands around the operands of an
expression loads and binds the same names whatever its operands are, as long as these have no names
of their own.
-/

namespace TemplateCalls

open Scanner

inductive Use where
  | load (name : String)
  | bind (name : String)
  deriving DecidableEq, Repr

/-- Where a lexeme stands: first in its statement, behind a dot, or anywhere else. -/
inductive Place where
  | first
  | selected
  | inside
  deriving DecidableEq, Repr

namespace Use

/-! ## Uses of names -/

/-- Whether a word before these lexemes is given a value by `=`. -/
def isAssigned : List Lexeme → Bool
  | .sign '=' :: .sign '=' :: _ => false
  | .sign '=' :: _ => true
  | _ => false

def isNamed : List Lexeme → Bool
  | .sign ':' :: .sign '=' :: _ => true
  | _ => false

def ofWord? (place : Place) (word : String) (rest : List Lexeme) : Option Use :=
  if !isName word || place = .selected then none
  else if isNamed rest then some (.bind word)
  else if isAssigned rest then if place = .first then some (.bind word) else none
  else some (.load word)

/-- The uses of names in lexemes, the first of which has the given place. -/
def readFrom (place : Place) : List Lexeme → List Use
  | [] => []
  | .word word :: rest => (ofWord? place word rest).toList ++ readFrom .inside rest
  | .sign character :: rest =>
    readFrom (if character = '.' then .selected else .inside) rest

/-- The uses of names in code between brackets, the first lexeme of which has the given place. -/
def inCode (place : Place) (brackets : List Bracket) (code : List Char) : List Use :=
  readFrom place (Lexeme.read (codeFrom ⟨.code, brackets⟩ code))

def inExpression (expression : String) : List Use := inCode .inside [] expression.toList

def inStatement (statement : String) : List Use := inCode .first [] statement.toList

/-! ## Lexemes before and behind a sign -/

/-- Whether a character is a sign that has no part in the use of a name. -/
def separates (character : Char) : Bool :=
  !Text.isIdentifierPart character && !Lexeme.isSpace character && character != '='
    && character != ':' && character != '.'

variable {character : Char} {lexemes rest : List Lexeme}

/-- Whether a name is bound is decided in front of the next sign. -/
theorem isAssigned_append_sign (hassign : character ≠ '=') :
    isAssigned (lexemes ++ .sign character :: rest) = isAssigned lexemes := by
  match lexemes with
  | [] => simp [isAssigned, hassign]
  | [.sign other] =>
    by_cases hother : other = '='
    · simp [isAssigned, hother, hassign]
    · simp [isAssigned, hother]
  | .word _ :: _ => rfl
  | .sign other :: .word _ :: _ => by_cases hother : other = '=' <;> simp [isAssigned, hother]
  | .sign other :: .sign second :: _ =>
    by_cases hother : other = '=' <;> by_cases hsecond : second = '=' <;>
      simp [isAssigned, hother, hsecond]

theorem isNamed_append_sign (hassign : character ≠ '=') (hcolon : character ≠ ':') :
    isNamed (lexemes ++ .sign character :: rest) = isNamed lexemes := by
  match lexemes with
  | [] => simp [isNamed, hcolon]
  | [.sign other] => simp [isNamed, hassign]
  | .word _ :: _ => rfl
  | .sign other :: .word _ :: _ => simp [isNamed]
  | .sign other :: .sign second :: _ =>
    by_cases hother : other = ':' <;> by_cases hsecond : second = '=' <;>
      simp [isNamed, hother, hsecond]

/-- A separating sign lets the lexemes before it and behind it be read by themselves. -/
theorem readFrom_append_sign (place : Place) (lexemes rest : List Lexeme)
    (hcharacter : separates character = true) :
    readFrom place (lexemes ++ .sign character :: rest) =
      readFrom place lexemes ++ readFrom .inside rest := by
  simp only [separates, Bool.and_eq_true, bne_iff_ne] at hcharacter
  obtain ⟨⟨⟨_, hassign⟩, hcolon⟩, hdot⟩ := hcharacter
  induction lexemes generalizing place with
  | nil => simp only [List.nil_append, readFrom, if_neg hdot]
  | cons lexeme others ih =>
    cases lexeme with
    | sign other => exact ih _
    | word word =>
      have huse : ofWord? place word (others ++ .sign character :: rest) =
          ofWord? place word others := by
        simp only [ofWord?, isAssigned_append_sign hassign, isNamed_append_sign hassign hcolon]
      rw [List.cons_append, readFrom, readFrom, huse, ih, List.append_assoc]

/-! ## Code before and behind a sign -/

variable {before after : List Bracket} {code operand : String} {first second : List Char}

theorem not_isIdentifierPart_of_separates (hcharacter : separates character = true) :
    Text.isIdentifierPart character = false := by
  simp only [separates, Bool.and_eq_true, Bool.not_eq_true'] at hcharacter
  exact hcharacter.1.1.1.1

theorem signOf_of_separates (hcharacter : separates character = true) :
    Lexeme.signOf character = [.sign character] := by
  simp only [separates, Bool.and_eq_true, Bool.not_eq_true'] at hcharacter
  rw [Lexeme.signOf, hcharacter.1.1.1.2, if_neg Bool.false_ne_true]

/-- Whether code begins with a separating sign that is no mark. -/
def startsApart (code : List Char) : Bool :=
  code.head?.any fun character ↦ (mark? character).isNone && separates character

/-- Whether a separating sign is the last lexeme of code, and no word its end. -/
def endsApart (code : List Char) : Bool :=
  (code.getLast?.any fun character ↦ !Text.isIdentifierPart character) &&
    (Lexeme.read code).getLast?.any fun
      | .sign character => separates character
      | .word _ => false

theorem startsApart_append (hfirst : startsApart first = true) (second : List Char) :
    startsApart (first ++ second) = true := by
  cases first with
  | nil => cases hfirst
  | cons character rest => exact hfirst

theorem startsPlain_of_startsApart (hcode : startsApart first = true) :
    startsPlain first = true := by
  cases first with
  | nil => cases hcode
  | cons character rest => exact (Bool.and_eq_true_iff.mp hcode).1

/-- What is read behind a separating sign is read as if nothing had been before it. -/
theorem readFrom_read_append_cons (place : Place) (first : List Char)
    (hcharacter : separates character = true) (second : List Char) :
    readFrom place (Lexeme.read (first ++ character :: second)) =
      readFrom place (Lexeme.read first) ++ readFrom .inside (Lexeme.read second) := by
  rw [Lexeme.read_append_cons first second (not_isIdentifierPart_of_separates hcharacter),
    signOf_of_separates hcharacter, List.singleton_append,
    readFrom_append_sign place _ _ hcharacter]

/-- The names of two parts that a sign keeps apart are those of the one and of the other. -/
theorem readFrom_read_append_of_endsApart (place : Place) (hfirst : endsApart first = true)
    (second : List Char) :
    readFrom place (Lexeme.read (first ++ second)) =
      readFrom place (Lexeme.read first) ++ readFrom .inside (Lexeme.read second) := by
  obtain ⟨hend, hlast⟩ := Bool.and_eq_true_iff.mp hfirst
  obtain ⟨character, hcharacter, hpart⟩ := (Option.any_eq_true ..).mp hend
  obtain ⟨initial, rfl⟩ := List.getLast?_eq_some_iff.mp hcharacter
  rw [Bool.not_eq_true'] at hpart
  have happend : Lexeme.read (initial ++ [character] ++ second) =
      Lexeme.read (initial ++ [character]) ++ Lexeme.read second := by
    rw [← List.append_cons, Lexeme.read_append_cons initial second hpart,
      Lexeme.read_append_cons initial [] hpart, List.append_assoc, List.append_assoc]
    rfl
  obtain ⟨lexeme, hlexeme, hsign⟩ := (Option.any_eq_true ..).mp hlast
  obtain ⟨lexemes, hlexemes⟩ := List.getLast?_eq_some_iff.mp hlexeme
  cases lexeme with
  | word text => cases hsign
  | sign separator =>
    rw [happend, hlexemes, ← List.append_cons, readFrom_append_sign place _ _ hsign,
      readFrom_append_sign place _ _ hsign, readFrom, List.append_nil]

/-! ## Code around operands -/

/-- The code before an operand is read by itself. -/
theorem inCode_append (place : Place) (hcode : Leads before code after)
    (hends : endsApart (codeFrom ⟨.code, before⟩ code.toList) = true) (rest : List Char) :
    inCode place before (code.toList ++ rest) =
      inCode place before code.toList ++ inCode .inside after rest := by
  rw [inCode, codeFrom_append hcode.2, readFrom_read_append_of_endsApart place hends]
  rfl

/-- A self-contained operand is read by itself before the code that follows it. -/
theorem inCode_operand_append (brackets : List Bracket) (hoperand : isSelfContained operand = true)
    {rest : List Char} (hrest : startsApart rest = true) :
    inCode .inside brackets (operand.toList ++ rest) =
      inExpression operand ++ inCode .inside brackets rest := by
  rw [inCode, codeFrom_append_of_isSelfContained hoperand (startsPlain_of_startsApart hrest)]
  cases rest with
  | nil => cases hrest
  | cons character rest =>
    have hcharacter : separates character = true := (Bool.and_eq_true_iff.mp hrest).2
    cases hstep : step ⟨.code, brackets⟩ character with
    | none =>
      have hcode : codeFrom ⟨.code, brackets⟩ (character :: rest) = [] := by
        simp only [codeFrom, hstep]
      rw [inCode, hcode, List.append_nil]
      exact (List.append_nil _).symm
    | some next =>
      have hinside := readFrom_read_append_cons .inside [] hcharacter (codeFrom next rest)
      rw [inCode, codeFrom_cons_of_code brackets rest hstep,
        readFrom_read_append_cons .inside _ hcharacter]
      exact congrArg _ hinside.symm

end Use

/-! ## Code without names -/

namespace Lexeme

def name? : Lexeme → Option String
  | .word text => if isName text then some text else none
  | .sign _ => none

def names (lexemes : List Lexeme) : List String := lexemes.filterMap name?

theorem names_word {text : String} (htext : isName text = false) (rest : List Lexeme) :
    names (.word text :: rest) = names rest :=
  List.filterMap_cons_none (by rw [name?, htext, if_neg Bool.false_ne_true])

/-- The names of two rows of lexemes are those of the one and of the other. -/
theorem names_append (first second : List Lexeme) :
    names (first ++ second) = names first ++ names second := List.filterMap_append

/-- Whether code has characters, and none that is part of a word. -/
def isWordless (code : List Char) : Bool :=
  !code.isEmpty && code.all fun character ↦ !Text.isIdentifierPart character

/-- Code without words separates the names before and behind it. -/
theorem names_read_append {signs : List Char} (hsigns : isWordless signs = true)
    (first second : List Char) :
    names (read (first ++ (signs ++ second))) = names (read first) ++ names (read second) := by
  induction signs generalizing first with
  | nil => cases hsigns
  | cons character rest ih =>
    simp only [isWordless, List.isEmpty_cons, Bool.not_false, Bool.true_and, List.all_cons,
      Bool.and_eq_true, Bool.not_eq_true'] at hsigns
    obtain ⟨hcharacter, hrest⟩ := hsigns
    have hsign : names (signOf character) = [] := by
      unfold signOf
      split <;> rfl
    rw [List.cons_append, read_append_cons first _ hcharacter, names_append, names_append, hsign,
      List.nil_append]
    cases rest with
    | nil => rfl
    | cons other others => exact congrArg _ (ih hrest [])

end Lexeme

/-- Self-contained code that has no name in it. -/
structure IsNameless (code : String) : Prop where
  selfContained : isSelfContained code = true
  names : Lexeme.names (lexemes code) = []

instance (code : String) : Decidable (IsNameless code) :=
  decidable_of_iff (isSelfContained code = true ∧ Lexeme.names (lexemes code) = [])
    ⟨fun h ↦ ⟨h.1, h.2⟩, fun h ↦ ⟨h.selfContained, h.names⟩⟩

theorem Use.readFrom_eq_nil {lexemes : List Lexeme} (hnames : Lexeme.names lexemes = [])
    (place : Place) : readFrom place lexemes = [] := by
  induction lexemes generalizing place with
  | nil => rfl
  | cons lexeme rest ih =>
    cases lexeme with
    | sign character => exact ih hnames _
    | word text =>
      cases htext : isName text with
      | true => simp [Lexeme.names, Lexeme.name?, htext] at hnames
      | false =>
        rw [Lexeme.names_word htext] at hnames
        rw [readFrom, ih hnames, ofWord?, htext]
        rfl

/-- Code without names uses none. -/
theorem IsNameless.inExpression_eq_nil {code : String} (hcode : IsNameless code) :
    Use.inExpression code = [] := Use.readFrom_eq_nil hcode.names .inside

/-- A literal of any text is without names. -/
theorem isNameless_codeText_quote (text : CodeText) : IsNameless text.quote where
  selfContained := isSelfContained_codeText_quote text
  names := by
    obtain ⟨mark, hcode⟩ := codeFrom_encode text
    rw [lexemes, codeOf, CodeText.quote, String.toList_ofList, hcode]
    cases mark <;> decide

theorem isNameless_text_quote (text : String) : IsNameless (Text.quote text) :=
  isNameless_codeText_quote (.ofString text)

/-- A digit can be part of an identifier, but cannot begin one. -/
theorem identifier_of_isDigit {character : Char} (hdigit : character.isDigit = true) :
    Text.isIdentifierPart character = true ∧ Text.isIdentifierStart character = false := by
  have hcodes : ∀ code < 58, 48 ≤ code → Text.isIdentifierPart (.ofNat code) = true ∧
      Text.isIdentifierStart (.ofNat code) = false := by decide
  obtain ⟨hlow, hhigh⟩ := Char.isDigit_iff_toNat.mp hdigit
  rw [← Char.ofNat_toNat character]
  exact hcodes character.toNat (Nat.lt_succ_of_le hhigh) hlow

/-- A numeral is one word, which is no identifier. -/
theorem isNameless_digits (number : Nat) : IsNameless (.ofList (Decimal.digits number)) where
  selfContained := isSelfContained_digits number
  names := by
    have hdigits : ∀ digit ∈ Decimal.digits number, digit.isDigit = true :=
      fun _ ↦ Decimal.isDigit_of_mem_digits
    have hparts : ∀ digit ∈ Decimal.digits number, Text.isIdentifierPart digit = true :=
      fun digit hmem ↦ (identifier_of_isDigit (hdigits digit hmem)).1
    have hcode : codeOf (.ofList (Decimal.digits number)) = Decimal.digits number := by
      rw [codeOf, String.toList_ofList]
      exact codeFrom_of_forall_code fun digit hmem ↦ step_of_isIdentifierPart (hparts digit hmem) []
    have hread : Lexeme.read (Decimal.digits number) = Lexeme.wordOf (Decimal.digits number) := by
      rw [Lexeme.read, ← List.append_nil (Decimal.digits number),
        Lexeme.readFrom_append_word hparts, List.append_nil]
      rfl
    rw [lexemes, hcode, hread]
    cases hcharacters : Decimal.digits number with
    | nil => rfl
    | cons first rest =>
      have hstart : Text.isIdentifierStart first = false :=
        (identifier_of_isDigit (hdigits first (by rw [hcharacters]; exact List.mem_cons_self))).2
      have hname : isName (.ofList (first :: rest)) = false := by
        rw [isName, String.toList_ofList, Text.isIdentifier, hstart, Bool.false_and, Bool.false_and]
      rw [Lexeme.wordOf, List.isEmpty_cons, if_neg Bool.false_ne_true, Lexeme.names_word hname]
      rfl

theorem IsNameless.append {first separator second : String} (hfirst : IsNameless first)
    (hseparator : Leads [] separator []) (hsigns : Lexeme.isWordless (codeOf separator) = true)
    (hsecond : IsNameless second) : IsNameless (first ++ separator ++ second) where
  selfContained := isSelfContained_append hfirst.selfContained hseparator hsecond.selfContained
  names := by
    have hcode : codeOf (first ++ separator ++ second) =
        codeOf first ++ (codeOf separator ++ codeOf second) := by
      rw [codeOf, String.toList_append, String.toList_append, List.append_assoc, start,
        codeFrom_append_of_isSelfContained hfirst.selfContained
          (startsPlain_append hseparator.1 _), codeFrom_append hseparator.2]
      rfl
    rw [lexemes, hcode, Lexeme.names_read_append hsigns, ← lexemes, ← lexemes,
      hfirst.names, hsecond.names, List.append_nil]

theorem isNameless_intercalate {texts : List String} (htexts : ∀ text ∈ texts, IsNameless text) :
    IsNameless (", ".intercalate texts) := by
  induction texts with
  | nil => decide
  | cons first rest ih =>
    rw [List.forall_mem_cons] at htexts
    cases rest with
    | nil => simpa using htexts.1
    | cons second rest =>
      rw [String.intercalate_cons_cons]
      exact htexts.1.append (leads_comma []) (by decide) (ih htexts.2)

theorem IsNameless.between {opening content closing : String} {brackets : List Bracket}
    (hcontent : IsNameless content) (hopening : Leads [] opening brackets)
    (hclosing : Leads brackets closing []) (hopens : Lexeme.isWordless (codeOf opening) = true)
    (hcloses : Lexeme.isWordless (codeFrom ⟨.code, brackets⟩ closing.toList) = true) :
    IsNameless (opening ++ content ++ closing) where
  selfContained := isSelfContained_between hopening hcontent.selfContained hclosing
  names := by
    have hcode : codeOf (opening ++ content ++ closing) =
        [] ++ (codeOf opening ++ (codeOf content ++
          (codeFrom ⟨.code, brackets⟩ closing.toList ++ []))) := by
      rw [codeOf, String.toList_append, String.toList_append, List.append_assoc, start,
        codeFrom_append hopening.2, codeFrom_append_of_isSelfContained hcontent.selfContained
          hclosing.1, List.append_nil, List.nil_append]
      rfl
    rw [lexemes, hcode, Lexeme.names_read_append hopens,
      Lexeme.names_read_append hcloses, ← lexemes, hcontent.names]
    rfl

/-- An argument with no name in its code: in its value and, if it is computed, in its key. -/
structure Argument.IsNameless (argument : Argument) : Prop where
  value : TemplateCalls.IsNameless argument.value
  key : argument.kind = .computed → ∀ key, argument.key = some key → TemplateCalls.IsNameless key

theorem Argument.IsNameless.isSelfContained {argument : Argument}
    (hargument : argument.IsNameless) : argument.IsSelfContained where
  value := hargument.value.selfContained
  key hkind key hkey := (hargument.key hkind key hkey).selfContained

namespace Expression

/-! ## Expressions over operands without names -/

/-- A literal of nameless keys and values is without names. -/
theorem isNameless_literalOf {items : List Item}
    (hitems : ∀ item ∈ items, IsNameless item.key ∧ IsNameless item.value) :
    IsNameless (literalOf items) := by
  have hsquare : Leads [] "[" [.square] ∧ Leads [.square] "]" [] := by decide
  have hcurly : Leads [] "\x7b" [.curly] ∧ Leads [.curly] "\x7d" [] := by decide
  unfold literalOf
  split
  · refine IsNameless.between ?_ hsquare.1 hsquare.2 (by decide) (by decide)
    apply isNameless_intercalate
    intro text htext
    obtain ⟨item, hitem, rfl⟩ := List.mem_map.mp htext
    exact (hitems item hitem).2
  · refine IsNameless.between ?_ hcurly.1 hcurly.2 (by decide) (by decide)
    apply isNameless_intercalate
    intro text htext
    obtain ⟨item, hitem, rfl⟩ := List.mem_map.mp htext
    exact (hitems item hitem).1.append (by decide) (by decide) (hitems item hitem).2

theorem isNameless_of_shows {item : Item} {argument : Argument} (hargument : argument.IsNameless)
    (hshows : item.Shows argument) : IsNameless item.key ∧ IsNameless item.value :=
  ⟨hshows.key_of isNameless_digits isNameless_text_quote hargument.key,
    hshows.value ▸ hargument.value⟩

/-- The literal that is written for nameless arguments is without names. -/
theorem isNameless_of_collection {entries : List Entry} {arguments : List Argument} {code : String}
    (harguments : Entry.toArguments entries = .ok arguments)
    (hnameless : ∀ argument ∈ arguments, argument.IsNameless)
    (hcode : collection entries = .ok code) : IsNameless code := by
  rw [collection, harguments, Outcome.ok_bind] at hcode
  obtain ⟨items, hitems, hresult⟩ := Outcome.bind_eq_ok_iff.mp hcode
  cases hresult
  refine isNameless_literalOf fun item hitem ↦ ?_
  obtain ⟨argument, hargument, hshows⟩ := exists_shows_of_itemsFrom hitems item hitem
  exact isNameless_of_shows (hnameless argument hargument) hshows

open Use (inCode inExpression startsApart_append)

/-- The uses of names in a value with a fallback: the value is bound to a name of the function. -/
def fallbackUses : List Use := [.load "_tmp", .bind "_tmp", .load "_tmp"]

def collapseUses : List Use :=
  [.load "re", .load "str", .bind "_tmp", .load "_tmp", .load "isinstance", .load "_tmp",
    .load "bytes", .load "str", .load "_tmp", .load "re"]

/-- A fallback uses the temporary only, once its operands are without names. -/
theorem inExpression_fallback {value replacement : String} (hvalue : IsNameless value)
    (hreplacement : IsNameless replacement) :
    inExpression (fallback value replacement) = fallbackUses := by
  have hopening : Leads [] "(_tmp if (_tmp := (" [.round, .round, .round] := by decide +kernel
  have hmiddle : Leads [.round, .round, .round] ")) is not None and _tmp != '' else ("
      [.round, .round] := by decide +kernel
  unfold fallback inExpression
  simp only [String.toList_append, List.append_assoc]
  rw [Use.inCode_append .inside hopening (by decide +kernel),
    Use.inCode_operand_append _ hvalue.selfContained (startsApart_append (by decide +kernel) _),
    Use.inCode_append .inside hmiddle (by decide +kernel),
    Use.inCode_operand_append _ hreplacement.selfContained (by decide +kernel),
    hvalue.inExpression_eq_nil, hreplacement.inExpression_eq_nil]
  decide +kernel

theorem inExpression_textOf (charset : CodeText) {value : String} (hvalue : IsNameless value) :
    inExpression (textOf charset value) =
      [.bind "_tmp", .load "_tmp", .load "isinstance", .load "_tmp", .load "bytes", .load "str",
        .load "_tmp"] := by
  have hcharset := isNameless_codeText_quote charset
  have hopening : Leads [] "('' if (_tmp := (" [.round, .round, .round] := by decide +kernel
  have hmiddle : Leads [.round, .round, .round] ")) is None else _tmp.decode("
      [.round, .round] := by decide +kernel
  unfold textOf inExpression
  simp only [String.toList_append, List.append_assoc]
  rw [Use.inCode_append .inside hopening (by decide +kernel),
    Use.inCode_operand_append _ hvalue.selfContained (startsApart_append (by decide +kernel) _),
    Use.inCode_append .inside hmiddle (by decide +kernel),
    Use.inCode_operand_append _ hcharset.selfContained (by decide +kernel),
    hvalue.inExpression_eq_nil, hcharset.inExpression_eq_nil]
  decide +kernel

theorem inExpression_verbatimReplacement {replacement : String}
    (hreplacement : IsNameless replacement) :
    inExpression (verbatimReplacement replacement) = [.load "str"] := by
  have hopening : Leads [] "str(" [.round] := by decide +kernel
  unfold verbatimReplacement inExpression
  simp only [String.toList_append, List.append_assoc]
  rw [Use.inCode_append .inside hopening (by decide +kernel),
    Use.inCode_operand_append _ hreplacement.selfContained
      (startsApart_append (by decide +kernel) _),
    hreplacement.inExpression_eq_nil]
  decide +kernel

/-- What a whitespace expression uses of its own. -/
theorem inExpression_collapseWhitespace (context : Context) {value replacement : String}
    (hvalue : IsNameless value) (hreplacement : IsNameless replacement) :
    inExpression (collapseWhitespace context value replacement) = collapseUses := by
  have hopening : Leads [] "re.sub(" [.round] := by decide +kernel
  have hpattern := isNameless_text_quote whitespacePattern
  have hmode : inCode .inside [.round] (", flags=".toList ++
      ((if context.isUtf8 then "re.UNICODE" else "re.ASCII").toList ++ ")".toList)) =
        [.load "re"] := by
    cases context.isUtf8 <;> decide +kernel
  unfold collapseWhitespace inExpression
  simp only [String.toList_append, List.append_assoc]
  rw [Use.inCode_append .inside hopening (by decide +kernel),
    Use.inCode_operand_append _ hpattern.selfContained (startsApart_append (by decide +kernel) _),
    Use.inCode_append .inside (leads_comma _) (by decide +kernel),
    Use.inCode_operand_append _ (isSelfContained_verbatimReplacement hreplacement.selfContained)
      (startsApart_append (by decide +kernel) _),
    Use.inCode_append .inside (leads_comma _) (by decide +kernel),
    Use.inCode_operand_append _ (isSelfContained_textOf _ hvalue.selfContained)
      (startsApart_append (by decide +kernel) _),
    hpattern.inExpression_eq_nil, inExpression_verbatimReplacement hreplacement,
    inExpression_textOf _ hvalue, hmode]
  decide +kernel

end Expression

end TemplateCalls
