import TemplateCalls.CommandLine.Compilation
import TemplateCalls.Proofs.LoadingFaults

/-!
# Which source a setting comes from

The selected file supplies pairs. The base charset is the one of the environment, unless that is
empty, or else the file's, or else the usual one; a charset that is asked for takes its place, but
the base has been checked by then. So a charset of the file that will not do is masked by the
environment and by nothing else. A selection stops at a path that cannot be looked up, with a fault
that is none of the configuration.
-/

namespace TemplateCalls.CommandLine

open Files (Path Found)
open TemplateCalls.Outcome Settings Text

variable {surroundings : Surroundings} {file : Option Path} {pairs : List (RawValue × RawValue)}

/-! ## Selection of a file -/

/-- The pairs of the selected file: the one that is asked for, or the nearest one, or none. -/
inductive Supplies (surroundings : Surroundings) :
    Option Path → List (RawValue × RawValue) → Prop
  | given (path : Path) (pairs : List (RawValue × RawValue))
      (hentry : surroundings.find path ≠ .nothing)
      (hholds : Holds surroundings.read (surroundings.find path) pairs) :
    Supplies surroundings (some path) pairs
  | nearest (before after : List Path) (path : Path) (pairs : List (RawValue × RawValue))
      (hplaces : candidates surroundings.directory = before ++ path :: after)
      (hbefore : ∀ place ∈ before, surroundings.find place = .nothing)
      (hentry : surroundings.find path ≠ .nothing)
      (hholds : Holds surroundings.read (surroundings.find path) pairs) :
    Supplies surroundings none pairs
  | usual (hnothing : ∀ place ∈ candidates surroundings.directory,
      surroundings.find place = .nothing) :
    Supplies surroundings none []

/-- The path that cannot be looked up and at which the selection of a file stops. -/
inductive StopsAt (surroundings : Surroundings) : Option Path → Path → Prop
  | given (path : Path) (hfind : surroundings.find path = .nameTooLong) :
    StopsAt surroundings (some path) path
  | nearest (before after : List Path) (path : Path)
      (hplaces : candidates surroundings.directory = before ++ path :: after)
      (hbefore : ∀ place ∈ before, surroundings.find place = .nothing)
      (hfind : surroundings.find path = .nameTooLong) :
    StopsAt surroundings none path

theorem firstEntry_append {find : Path → Found} {before : List Path}
    (hbefore : ∀ place ∈ before, find place = .nothing) (rest : List Path) :
    firstEntry find (before ++ rest) = firstEntry find rest := by
  induction before with
  | nil => rfl
  | cons place before ih =>
    rw [List.forall_mem_cons] at hbefore
    rw [List.cons_append, firstEntry, hbefore.1]
    exact ih hbefore.2

/-- The load of a selected file that supplies pairs. -/
theorem load_of_supplies (hsupplies : Supplies surroundings file pairs) :
    ∃ selected, selectFile surroundings file = .ok selected ∧
      load surroundings.read surroundings.find surroundings.charset selected =
        (ofDraft (draftOf surroundings.charset pairs)).mapError .invalid := by
  cases hsupplies with
  | given path pairs hentry hholds =>
    refine ⟨some path, ?_, load_of_holds hholds _⟩
    generalize hfound : surroundings.find path = found at hentry hholds
    cases hholds with
    | nothing => exact absurd rfl hentry
    | blank | mapping => rw [selectFile, hfound]
  | nearest before after path pairs hplaces hbefore hentry hholds =>
    refine ⟨some path, ?_, load_of_holds hholds _⟩
    rw [selectFile, Settings.nearest, hplaces, firstEntry_append hbefore]
    generalize hfound : surroundings.find path = found at hentry hholds
    cases hholds with
    | nothing => exact absurd rfl hentry
    | blank | mapping => rw [firstEntry, hfound]
  | usual hnothing =>
    refine ⟨none, ?_, load_none _ _ _⟩
    have hnearest := firstEntry_append hnothing []
    rw [List.append_nil] at hnearest
    rw [selectFile, Settings.nearest, hnearest, firstEntry]

theorem selectFile_of_stopsAt {path : Path} (hstops : StopsAt surroundings file path) :
    selectFile surroundings file = .error (.nameTooLong path) := by
  cases hstops with
  | given path hfind => rw [selectFile, hfind]
  | nearest before after path hplaces hbefore hfind =>
    rw [selectFile, Settings.nearest, hplaces, firstEntry_append hbefore, firstEntry, hfind]

/-! ## Settings of a file -/

/-- The charset before any that is asked for. -/
def baseCharset (environmentCharset : Option String) (pairs : List (RawValue × RawValue)) :
    RawValue :=
  match environmentCharset.filter (!·.isEmpty) with
  | some charset => .text (.ofString charset)
  | none => (Settings.lastValue? "charset" pairs).getD (.text (.ofString "UTF-8"))

/-- A name is the function name that pairs give, or the usual one if they give none. -/
def NamesFunction (pairs : List (RawValue × RawValue)) (name : String) : Prop :=
  match Settings.lastValue? "function_name" pairs with
  | some value => value.Gives (.ofString name) ∧ isIdentifier name.toList = true
  | none => name = "render"

/-- Pairs give settings if the base charset is text that is not blank, and if there is no function
name or it is an identifier. -/
theorem ofDraft_draftOf_eq_ok_iff {environmentCharset : Option String} {settings : Settings} :
    ofDraft (draftOf environmentCharset pairs) = .ok settings ↔
      (∃ text, (baseCharset environmentCharset pairs).Gives text ∧ ¬AllBlank text ∧
        IsTrimmed text settings.charset) ∧
      NamesFunction pairs settings.functionName := by
  have husual : charsetOf (.text (.ofString "UTF-8")) = .ok (.ofString "UTF-8") := rfl
  have hcharset : ((draftOf environmentCharset pairs).charset.map charsetOf).getD
      (.ok (.ofString "UTF-8")) = charsetOf (baseCharset environmentCharset pairs) := by
    unfold baseCharset draftOf draftOfEnvironment Draft.orElse
    cases environmentCharset.filter (!·.isEmpty) with
    | some charset => rfl
    | none =>
      cases Settings.lastValue? "charset" pairs with
      | some value => rfl
      | none => exact husual.symm
  have hname : (draftOf environmentCharset pairs).functionName =
      Settings.lastValue? "function_name" pairs := Option.none_or
  rw [ofDraft_eq_ok_iff, hcharset, charsetOf_eq_ok_iff, hname, NamesFunction]
  cases Settings.lastValue? "function_name" pairs with
  | none => simp only [Option.map_none, Option.getD_none, Except.ok.injEq, eq_comm]
  | some value => simp only [Option.map_some, Option.getD_some, functionNameOf_eq_ok_iff]

/-! ## Resolution -/

theorem resolveSettings_snd (surroundings : Surroundings) (request : Request) :
    (resolveSettings surroundings request).2 = (do
      let file ← selectFile surroundings request.file
      let settings ← load surroundings.read surroundings.find surroundings.charset file
      let asked := request.charset.map fun charset ↦ CodeText.ofString charset
      (settings.override ⟨asked.map .text, none⟩).mapError .invalid) := by
  rw [resolveSettings]
  cases selectFile surroundings request.file with
  | error fault => rfl
  | ok file =>
    simp only [ok_bind]
    cases load surroundings.read surroundings.find surroundings.charset file with
    | error fault => rfl
    | ok settings => rfl

/-- The conditions on a base charset, a function name and the charset that is asked for. -/
structure Acceptable (environmentCharset asked : Option String)
    (pairs : List (RawValue × RawValue)) : Prop where
  functionName : ∃ name, NamesFunction pairs name
  base : ∃ text, (baseCharset environmentCharset pairs).Gives text ∧ ¬AllBlank text
  asked : ∀ charset, asked = some charset → ¬AllBlank (.ofString charset)

/-- The charset comes from what is asked for, or else from the base, and the function name from the
pairs. -/
structure ComesFrom (environmentCharset asked : Option String)
    (pairs : List (RawValue × RawValue)) (settings : Settings) : Prop where
  charset : match asked with
    | some charset => IsTrimmed (.ofString charset) settings.charset
    | none => ∃ text, (baseCharset environmentCharset pairs).Gives text ∧
      IsTrimmed text settings.charset
  functionName : NamesFunction pairs settings.functionName

/-- Acceptable pairs give settings. -/
theorem Acceptable.exists_comesFrom {environmentCharset asked : Option String}
    (hacceptable : Acceptable environmentCharset asked pairs) :
    ∃ settings, ComesFrom environmentCharset asked pairs settings := by
  obtain ⟨name, hname⟩ := hacceptable.functionName
  obtain ⟨text, hgives, _⟩ := hacceptable.base
  cases asked with
  | none => exact ⟨⟨trimBlanks text, name⟩, ⟨text, hgives, isTrimmed_trimBlanks text⟩, hname⟩
  | some charset => exact ⟨⟨trimBlanks (.ofString charset), name⟩, isTrimmed_trimBlanks _, hname⟩

/-- Settings are loaded and then changed exactly if the pairs are acceptable, to what they give. -/
theorem override_ofDraft_eq_ok_iff {environmentCharset asked : Option String}
    {settings : Settings} :
    (∃ loaded, ofDraft (draftOf environmentCharset pairs) = .ok loaded ∧
      loaded.override ⟨(asked.map CodeText.ofString).map .text, none⟩ = .ok settings) ↔
    Acceptable environmentCharset asked pairs ∧
      ComesFrom environmentCharset asked pairs settings := by
  constructor
  · rintro ⟨loaded, hloaded, hchanged⟩
    obtain ⟨⟨text, hgives, htext, htrimmed⟩, hname⟩ := ofDraft_draftOf_eq_ok_iff.mp hloaded
    obtain ⟨hnotBlank, hcharset, hsame⟩ :=
      (isValid_of_ofDraft hloaded).override_eq_ok_iff.mp hchanged
    refine ⟨⟨⟨_, hname⟩, ⟨text, hgives, htext⟩, ?_⟩, ?_, hsame ▸ hname⟩
    · rintro charset rfl
      exact hnotBlank
    · cases asked with
      | none => exact ⟨text, hgives, htrimmed.trans hcharset⟩
      | some charset => exact hcharset
  · rintro ⟨hacceptable, hcomesFrom⟩
    obtain ⟨text, hgives, htext⟩ := hacceptable.base
    have hloaded : ofDraft (draftOf environmentCharset pairs) =
        .ok ⟨trimBlanks text, settings.functionName⟩ :=
      ofDraft_draftOf_eq_ok_iff.mpr
        ⟨⟨text, hgives, htext, isTrimmed_trimBlanks text⟩, hcomesFrom.functionName⟩
    have hvalid := isValid_of_ofDraft hloaded
    refine ⟨_, hloaded, hvalid.override_eq_ok_iff.mpr ?_⟩
    have hcharset := hcomesFrom.charset
    cases asked with
    | none =>
      obtain ⟨other, hother, htrimmed⟩ := hcharset
      have heq : trimBlanks text = settings.charset := by
        rw [hgives.unique hother, trimBlanks_of_isTrimmed htrimmed]
      exact ⟨hvalid.notBlank, heq ▸ hvalid.trimmed, rfl⟩
    | some charset => exact ⟨hacceptable.asked charset rfl, hcharset, rfl⟩

section resolution

variable {request : Request}

theorem resolveSettings_of_supplies (hsupplies : Supplies surroundings request.file pairs) :
    (resolveSettings surroundings request).2 =
      ((ofDraft (draftOf surroundings.charset pairs)).mapError .invalid >>= fun loaded ↦
        (loaded.override ⟨(request.charset.map CodeText.ofString).map .text, none⟩).mapError
          SettingsFault.invalid) := by
  obtain ⟨selected, hselected, hload⟩ := load_of_supplies hsupplies
  rw [resolveSettings_snd, hselected, ok_bind, hload]

/-- Settings are resolved exactly if all values are acceptable, and they come from those values. -/
theorem resolveSettings_eq_ok_iff (hsupplies : Supplies surroundings request.file pairs)
    {settings : Settings} :
    (resolveSettings surroundings request).2 = .ok settings ↔
      Acceptable surroundings.charset request.charset pairs ∧
      ComesFrom surroundings.charset request.charset pairs settings := by
  rw [resolveSettings_of_supplies hsupplies, bind_eq_ok_iff, ← override_ofDraft_eq_ok_iff]
  simp only [mapError_eq_ok_iff]

/-- Where pairs are supplied, only invalid settings are refused. -/
theorem failsOnly_resolveSettings (hsupplies : Supplies surroundings request.file pairs) :
    FailsOnly (fun fault ↦ ∃ violations, fault = .invalid violations)
      (resolveSettings surroundings request).2 := by
  have hinvalid : ∀ draft, FailsOnly (fun fault ↦ ∃ violations, fault = .invalid violations)
      ((ofDraft draft).mapError SettingsFault.invalid) := by
    intro draft fault hfault
    rcases ofDraft_cases draft with ⟨settings, hsettings, _⟩ | ⟨violations, hviolations⟩
    · exact nomatch hfault.symm.trans hsettings
    · exact ⟨violations, Except.error.inj (hfault.symm.trans hviolations)⟩
  rw [resolveSettings_of_supplies hsupplies]
  exact (hinvalid _).bind fun _ _ ↦ hinvalid _

end resolution

/-- A base charset that is not the environment's is the file's if it gives one. -/
theorem environment_of_base {environmentCharset : Option String} {value : RawValue}
    (hvalue : Settings.lastValue? "charset" pairs = some value)
    (hbad : ∀ text, value.Gives text → AllBlank text)
    (hbase : ∃ text, (baseCharset environmentCharset pairs).Gives text ∧ ¬AllBlank text) :
    ∃ charset, environmentCharset = some charset ∧ charset.isEmpty = false := by
  obtain ⟨text, hgives, htext⟩ := hbase
  rw [baseCharset, hvalue, Option.getD_some] at hgives
  split at hgives
  · next charset hcharset =>
    obtain ⟨henvironment, hnotEmpty⟩ := Option.filter_eq_some_iff.mp hcharset
    exact ⟨charset, henvironment, by simpa using hnotEmpty⟩
  · exact absurd (hbad text hgives) htext

/-- A file that is asked for and missing is a fault of the configuration, and a path that cannot be
looked up is a fault that is none. From the pairs of a selected file settings resolve exactly if the
pairs are acceptable, to what they give, and are invalid otherwise. A charset of the file that will
not do is never masked by one that is asked for, but only by the environment. -/
theorem resolveSettings_precedence (surroundings : Surroundings) (request : Request) :
    let outcome := (resolveSettings surroundings request).2
    (∀ path, request.file = some path → surroundings.find path = .nothing →
      outcome = .error (.fileNotFound path)) ∧
    (∀ path, StopsAt surroundings request.file path →
      outcome = .error (.nameTooLong path) ∧
        (SettingsFault.nameTooLong path).isConfiguration = false) ∧
    ∀ pairs, Supplies surroundings request.file pairs →
      ((∃ settings, outcome = .ok settings) ↔
        Acceptable surroundings.charset request.charset pairs) ∧
      (∀ settings, outcome = .ok settings →
        ComesFrom surroundings.charset request.charset pairs settings) ∧
      (∀ fault, outcome = .error fault → ∃ violations, fault = .invalid violations) ∧
      (∀ value, Settings.lastValue? "charset" pairs = some value →
        (∀ text, value.Gives text → AllBlank text) → (∃ settings, outcome = .ok settings) →
          ∃ charset, surroundings.charset = some charset ∧ charset.isEmpty = false) := by
  intro outcome
  refine ⟨fun path hfile hfind ↦ ?_, fun path hstops ↦ ⟨?_, rfl⟩, fun pairs hsupplies ↦ ?_⟩
  · have hselected : selectFile surroundings request.file = .error (.fileNotFound path) := by
      rw [hfile, selectFile, hfind]
    exact (resolveSettings_snd surroundings request).trans (by rw [hselected, error_bind])
  · exact (resolveSettings_snd surroundings request).trans
      (by rw [selectFile_of_stopsAt hstops, error_bind])
  · have hiff : ∀ settings, outcome = .ok settings ↔ _ ∧ _ :=
      fun settings ↦ resolveSettings_eq_ok_iff hsupplies
    have hacceptable : (∃ settings, outcome = .ok settings) ↔
        Acceptable surroundings.charset request.charset pairs := by
      constructor
      · rintro ⟨settings, hsettings⟩
        exact ((hiff settings).mp hsettings).1
      · intro hacceptable
        obtain ⟨settings, hcomesFrom⟩ := hacceptable.exists_comesFrom
        exact ⟨settings, (hiff settings).mpr ⟨hacceptable, hcomesFrom⟩⟩
    refine ⟨hacceptable, fun settings hsettings ↦ ((hiff settings).mp hsettings).2,
      failsOnly_resolveSettings hsupplies, fun value hvalue hbad hsettings ↦ ?_⟩
    exact environment_of_base hvalue hbad (hacceptable.mp hsettings).base

/-- A charset of a file that is a number is masked by the environment, and then a charset that is
asked for counts. A path that is too long is a fault whatever is asked for. -/
theorem resolveSettings_precedence_masked_number :
    let path := Path.ofString "tplgen.yaml"
    let request : Request := { plugin := "array", charset := some " ascii ", file := some path }
    let surroundings : Surroundings :=
      { directory := Path.ofString "/", find := fun _ ↦ .file "charset: 1\n",
        charset := some "latin-1" }
    let tooLong : Surroundings := { surroundings with find := fun _ ↦ .nameTooLong }
    Supplies surroundings request.file [(.text (.ofString "charset"), .other)] ∧
    (∃ settings, (resolveSettings surroundings request).2 = .ok settings ∧
      IsTrimmed (.ofString " ascii ") settings.charset) ∧
    StopsAt tooLong request.file path ∧
    (resolveSettings tooLong request).2 = .error (.nameTooLong path) := by
  intro path request surroundings tooLong
  have hread : documentOf Yaml.readDocument "charset: 1\n" =
      .ok (.mapping [(.text (.ofString "charset"), .other)]) := by
    have htext : "charset: 1\n".toList =
        ['c', 'h', 'a', 'r', 's', 'e', 't', ':', ' ', '1', '\n'] := by decide
    rw [documentOf, htext, ← toOption_eq_some_iff]
    decide +kernel
  have hsupplies : Supplies surroundings request.file [(.text (.ofString "charset"), .other)] :=
    .given path _ Found.noConfusion (.mapping _ _ hread (by decide))
  have hacceptable : Acceptable surroundings.charset request.charset
      [(.text (.ofString "charset"), .other)] :=
    { functionName := ⟨"render", rfl⟩
      base := ⟨.ofString "latin-1", .text _, by decide⟩
      asked := fun charset hcharset ↦ Option.some.inj hcharset ▸ by decide }
  have hstops : StopsAt tooLong request.file path := .given path rfl
  obtain ⟨hiff, hcomesFrom, _⟩ :=
    (resolveSettings_precedence surroundings request).2.2 _ hsupplies
  obtain ⟨settings, hsettings⟩ := hiff.mpr hacceptable
  exact ⟨hsupplies, ⟨settings, hsettings, (hcomesFrom settings hsettings).charset⟩, hstops,
    ((resolveSettings_precedence tooLong request).2.1 path hstops).1⟩

end TemplateCalls.CommandLine
