import TemplateCalls.Proofs.DecodableRuns
import TemplateCalls.Proofs.Lexemes
import TemplateCalls.Proofs.SettingsChanges

/-!
# The header of the function

Behind its imports a module has the line that opens its function, with the name that the settings
give, whatever steps have been taken. Settings that are accepted give an identifier. The line is the
header of a function exactly if this identifier is no keyword; and no keyword is refused as a
function name, neither in a draft nor in a change.
-/

namespace TemplateCalls

open Scanner Text

/-- Settings that have been checked: a draft gives them, or a change of other settings does. -/
inductive Settings.IsAccepted (settings : Settings) : Prop
  | ofDraft (draft : Draft) (hsettings : ofDraft draft = .ok settings)
  | override (base : Settings) (change : Draft) (hsettings : base.override change = .ok settings)

theorem Settings.IsAccepted.isValid {settings : Settings} (haccepted : settings.IsAccepted) :
    settings.IsValid := by
  cases haccepted with
  | ofDraft draft hsettings => exact isValid_of_ofDraft hsettings
  | override base change hsettings => exact isValid_of_ofDraft hsettings

/-- Settings that have been checked may be given any identifier for their function name. -/
theorem Settings.IsAccepted.ofDraft_renamed {settings : Settings} (haccepted : settings.IsAccepted)
    {name : String} (hname : isIdentifier name.toList = true) :
    let renamed := { settings with functionName := name }
    Settings.ofDraft renamed.toDraft = .ok renamed := by
  intro renamed
  have hvalid : renamed.IsValid := { haccepted.isValid with identifier := hname }
  exact hvalid.ofDraft_toDraft

/-! ## Lexemes of a header -/

/-- The line that opens a function of one parameter. -/
def IsFunctionHeader (line : String) : Prop :=
  ∃ name parameter, lexemes line = [.word "def", .word name, .sign '(', .word parameter, .sign ')',
    .sign ':'] ∧ isName name = true ∧ isName parameter = true

theorem Lexeme.wordOf_toList {name : String} (hname : isIdentifier name.toList = true) :
    wordOf name.toList = [.word name] := by
  cases hcharacters : name.toList with
  | nil =>
    rw [hcharacters] at hname
    cases hname
  | cons first rest =>
    rw [← hcharacters, wordOf, hcharacters, List.isEmpty_cons, if_neg Bool.false_ne_true,
      ← hcharacters, String.ofList_toList]

/-- The words and signs of a header with an identifier for its name. -/
theorem lexemes_header {name : String} (hname : isIdentifier name.toList = true) :
    lexemes ("def " ++ name ++ "(self):") =
      [.word "def", .word name, .sign '(', .word "self", .sign ')', .sign ':'] := by
  have hparts : ∀ character ∈ name.toList, isIdentifierPart character = true :=
    fun _ ↦ isIdentifierPart_of_mem hname
  have hsteps : ∀ character ∈ name.toList, step start character = some start :=
    fun character hmem ↦ step_of_isIdentifierPart (hparts character hmem) []
  have hcode : codeOf ("def " ++ name ++ "(self):") =
      "def".toList ++ ' ' :: (name.toList ++ '(' :: "self):".toList) := by
    have hopening : scan start "def ".toList = some start := by decide
    have hread : codeFrom start name.toList = name.toList := codeFrom_of_forall_code hsteps
    have hclosing : codeFrom start "(self):".toList = "(self):".toList := by decide
    rw [codeOf, String.toList_append, String.toList_append, List.append_assoc,
      codeFrom_append hopening, codeFrom_append (scan_of_forall_step hsteps), hread, hclosing]
    rfl
  have hword : Lexeme.read (name.toList ++ '(' :: "self):".toList) =
      Lexeme.word name :: Lexeme.read "(self):".toList := by
    rw [Lexeme.read, Lexeme.readFrom_append_word hparts, List.nil_append,
      ← List.nil_append ('(' :: _), Lexeme.readFrom_append_cons _ _ _ (by decide), Lexeme.readFrom,
      Lexeme.wordOf_toList hname]
    rfl
  have hdef : Lexeme.read "def".toList = [.word "def"] := by decide +kernel
  have hself : Lexeme.read "(self):".toList =
      [.sign '(', .word "self", .sign ')', .sign ':'] := by decide +kernel
  rw [lexemes, hcode, Lexeme.read_append_cons _ _ (by decide), hword, hdef, hself]
  rfl

/-- A line of this form is a header exactly if its name is no keyword. -/
theorem isFunctionHeader_iff {name : String} (hname : isIdentifier name.toList = true) :
    IsFunctionHeader ("def " ++ name ++ "(self):") ↔ name ∉ keywords := by
  have hisName : isName name = true ↔ name ∉ keywords := by
    rw [isName, hname, Bool.true_and, Bool.not_eq_true', ← Bool.not_eq_true,
      List.contains_iff_mem]
  rw [← hisName, IsFunctionHeader, lexemes_header hname]
  constructor
  · rintro ⟨_, _, hlexemes, hfunction, _⟩
    simp only [List.cons.injEq, Lexeme.word.injEq, true_and] at hlexemes
    rw [hlexemes.1]
    exact hfunction
  · exact fun hfunction ↦ ⟨name, "self", rfl, hfunction, by decide⟩

namespace RenderModule

/-! ## Headers of modules -/

def statements (target : RenderModule) : List String :=
  "    _out = []" :: target.pieces.map appendLine ++ ["    return ''.join(_out)"]

theorem lines_eq (target : RenderModule) :
    target.lines = importLines target.imports
      ++ ("def " ++ target.functionName ++ "(self):") :: target.statements ++ [""] := by
  simp only [lines, statements, List.append_assoc, List.cons_append, List.nil_append]

/-- No step changes the name of the function. -/
theorem functionName_run (settings : Settings) (steps : List Step) :
    ((ofSettings settings).run steps).2.functionName = settings.functionName :=
  congrArg RenderModule.functionName (run_snd (ofSettings settings) steps)

/-- Behind the imports of a module stands the line with the function name, which is an identifier.
It is the header of a function exactly if the function name is no keyword. Every keyword is taken
for a function name, in settings of their own and as a change of others, and its line is no header.
-/
theorem header_of_accepted {settings : Settings} (haccepted : settings.IsAccepted)
    (steps : List Step) :
    let built := ((ofSettings settings).run steps).2
    let header (name : String) := "def " ++ name ++ "(self):"
    built.lines =
      importLines built.imports ++ header settings.functionName :: built.statements ++ [""] ∧
    isIdentifier settings.functionName.toList = true ∧
    (IsFunctionHeader (header settings.functionName) ↔ settings.functionName ∉ keywords) ∧
    ∀ keyword ∈ keywords,
      let renamed := { settings with functionName := keyword }
      let change : Draft := { functionName := some (.text (.ofString keyword)) }
      Settings.ofDraft renamed.toDraft = .ok renamed ∧ settings.override change = .ok renamed ∧
        ¬IsFunctionHeader (header keyword) := by
  intro built header
  have hidentifier := haccepted.isValid.identifier
  have hkeywords : ∀ keyword ∈ keywords, isIdentifier keyword.toList = true := by decide +kernel
  have hfunction : built.functionName = settings.functionName := functionName_run settings steps
  refine ⟨by rw [lines_eq, hfunction], hidentifier, isFunctionHeader_iff hidentifier,
    fun keyword hkeyword ↦ ?_⟩
  intro renamed change
  have hdraft : Settings.ofDraft renamed.toDraft = .ok renamed :=
    haccepted.ofDraft_renamed (hkeywords keyword hkeyword)
  refine ⟨hdraft, hdraft, fun hheader ↦ ?_⟩
  exact (isFunctionHeader_iff (hkeywords keyword hkeyword)).mp hheader hkeyword

/-- The usual settings, and a keyword for the function name in their place. -/
theorem header_of_accepted_class :
    let settings : Settings := {}
    let renamed : Settings := { functionName := "class" }
    let steps := [Step.text "a", .compile]
    settings.IsAccepted ∧ IsFunctionHeader "def render(self):" ∧
      Settings.ofDraft { functionName := some (.text (.ofString "class")) } = .ok renamed ∧
      ((ofSettings renamed).run steps).2.lines.head? = some "def class(self):" ∧
      ¬IsFunctionHeader "def class(self):" := by
  intro settings renamed steps
  have haccepted : settings.IsAccepted := .ofDraft {} rfl
  obtain ⟨_, _, hheader, hkeywords⟩ := header_of_accepted haccepted steps
  refine ⟨haccepted, hheader.mpr (by decide), ?_, by rfl, (hkeywords "class" (by decide)).2.2⟩
  exact (hkeywords "class" (by decide)).2.1

end RenderModule

end TemplateCalls
