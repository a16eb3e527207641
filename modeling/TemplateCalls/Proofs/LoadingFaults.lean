import TemplateCalls.Proofs.DraftValues
import TemplateCalls.Settings.Loading
import TemplateCalls.Yaml.Document

/-!
# How the loading of settings fails

An entry of the file system holds pairs, or is refused as a configuration, or obstructs the loading:
it does neither give pairs nor a fault of the configuration. Only a directory, a path that cannot be
looked up, a text that its reader does not read and yet does not call malformed, and a mapping with a
key that is not text obstruct. Where pairs are held, the draft made of them and of the environment
gives settings or is invalid.

All of this holds for every reader of texts.
-/

namespace TemplateCalls.Settings

open Files (Path Found)
open Outcome

variable {read : Yaml.Reader} {find : Path → Found} {path : Path}

def documentOf (read : Yaml.Reader) (text : String) : Except Yaml.Fault Yaml.Document :=
  read (unifyLineEnds text.toList)

/-! ## Entries of the file system -/

/-- The pairs that an entry holds: none if it is missing or blank, and else those of a mapping. -/
inductive Holds (read : Yaml.Reader) : Found → List (RawValue × RawValue) → Prop
  | nothing : Holds read .nothing []
  | blank (text : String) (hread : documentOf read text = .ok .blank) : Holds read (.file text) []
  | mapping (text : String) (pairs : List (RawValue × RawValue))
      (hread : documentOf read text = .ok (.mapping pairs))
      (hkeys : ∀ pair ∈ pairs, pair.1.isText = true) :
    Holds read (.file text) pairs

/-- The entry at a path is refused as a configuration. -/
inductive Refuses (read : Yaml.Reader) (path : Path) : Found → SettingsFault → Prop
  | malformed (text : String) (hread : documentOf read text = .error .malformed) :
    Refuses read path (.file text) (.malformedFile path)
  | other (text : String) (hread : documentOf read text = .ok .other) :
    Refuses read path (.file text) (.notMapping path)

/-- The entry at a path stands in the way of a loading. -/
inductive Obstructs (read : Yaml.Reader) (path : Path) : Found → SettingsFault → Prop
  | directory : Obstructs read path .directory (.isDirectory path)
  | nameTooLong : Obstructs read path .nameTooLong (.nameTooLong path)
  | unreadable (text : String) (fault : Yaml.Fault) (hread : documentOf read text = .error fault)
      (hfault : fault ≠ .malformed) :
    Obstructs read path (.file text) (.unreadable fault)
  | key (text : String) (pairs : List (RawValue × RawValue))
      (hread : documentOf read text = .ok (.mapping pairs))
      (hkey : ∃ pair ∈ pairs, pair.1.isText = false) :
    Obstructs read path (.file text) .keyNotText

/-- A refusal is a fault of the configuration. -/
theorem Refuses.isConfiguration {found : Found} {fault : SettingsFault}
    (hrefuses : Refuses read path found fault) : fault.isConfiguration = true := by
  cases hrefuses <;> rfl

/-- An obstruction is no fault of the configuration. -/
theorem Obstructs.not_isConfiguration {found : Found} {fault : SettingsFault}
    (hobstructs : Obstructs read path found fault) : fault.isConfiguration = false := by
  cases hobstructs <;> rfl

/-- An entry holds pairs, or is refused, or obstructs. -/
theorem holds_or_refuses_or_obstructs (read : Yaml.Reader) (path : Path) (found : Found) :
    (∃ pairs, Holds read found pairs) ∨ (∃ fault, Refuses read path found fault) ∨
      ∃ fault, Obstructs read path found fault := by
  cases found with
  | nothing => exact .inl ⟨_, .nothing⟩
  | directory => exact .inr (.inr ⟨_, .directory⟩)
  | nameTooLong => exact .inr (.inr ⟨_, .nameTooLong⟩)
  | file text =>
    cases hread : documentOf read text with
    | error fault =>
      by_cases hfault : fault = .malformed
      · exact .inr (.inl ⟨_, .malformed text (hfault ▸ hread)⟩)
      · exact .inr (.inr ⟨_, .unreadable text fault hread hfault⟩)
    | ok document =>
      cases document with
      | blank => exact .inl ⟨_, .blank text hread⟩
      | other => exact .inr (.inl ⟨_, .other text hread⟩)
      | mapping pairs =>
        by_cases hkeys : ∀ pair ∈ pairs, pair.1.isText = true
        · exact .inl ⟨_, .mapping text pairs hread hkeys⟩
        · simp only [not_forall, Bool.not_eq_true, exists_prop] at hkeys
          exact .inr (.inr ⟨_, .key text pairs hread hkeys⟩)

/-! ## Loading -/

/-- The draft of the environment, with the pairs of a file below it. -/
def draftOf (environmentCharset : Option String) (pairs : List (RawValue × RawValue)) : Draft :=
  (draftOfEnvironment environmentCharset).orElse
    ⟨lastValue? "charset" pairs, lastValue? "function_name" pairs⟩

theorem draftOfPairs_of_isText {pairs : List (RawValue × RawValue)}
    (hkeys : ∀ pair ∈ pairs, pair.1.isText = true) :
    draftOfPairs pairs = .ok ⟨lastValue? "charset" pairs, lastValue? "function_name" pairs⟩ := by
  rw [draftOfPairs, if_pos (List.all_eq_true.mpr hkeys)]

theorem load_none (read : Yaml.Reader) (find : Path → Found) (environmentCharset : Option String) :
    load read find environmentCharset none =
      (ofDraft (draftOf environmentCharset [])).mapError .invalid := rfl

/-- Where pairs are held, the draft of them and of the environment decides. -/
theorem load_of_holds {pairs : List (RawValue × RawValue)} (hholds : Holds read (find path) pairs)
    (environmentCharset : Option String) :
    load read find environmentCharset (some path) =
      (ofDraft (draftOf environmentCharset pairs)).mapError .invalid := by
  have hpairs : pairsAt read path (find path) = .ok pairs ∧ ∀ pair ∈ pairs, pair.1.isText = true := by
    generalize find path = found at hholds
    cases hholds with
    | nothing => exact ⟨rfl, nofun⟩
    | blank text hread =>
      rw [documentOf] at hread
      rw [pairsAt, pairsOfFile, hread]
      exact ⟨rfl, nofun⟩
    | mapping text pairs hread hkeys =>
      rw [documentOf] at hread
      rw [pairsAt, pairsOfFile, hread]
      exact ⟨rfl, hkeys⟩
  simp only [load, hpairs.1, ok_bind, draftOfPairs_of_isText hpairs.2, draftOf]

theorem load_of_refuses {fault : SettingsFault} (hrefuses : Refuses read path (find path) fault)
    (environmentCharset : Option String) :
    load read find environmentCharset (some path) = .error fault := by
  have hpairs : pairsAt read path (find path) = .error fault := by
    generalize find path = found at hrefuses
    cases hrefuses with
    | malformed text hread | other text hread =>
      rw [documentOf] at hread
      rw [pairsAt, pairsOfFile, hread]
  simp only [load, hpairs, error_bind]

/-- An obstruction decides, whatever the environment gives. -/
theorem load_of_obstructs {fault : SettingsFault} (hobstructs : Obstructs read path (find path) fault)
    (environmentCharset : Option String) :
    load read find environmentCharset (some path) = .error fault := by
  generalize hfound : find path = found at hobstructs
  cases hobstructs with
  | directory | nameTooLong => simp only [load, hfound, pairsAt, error_bind]
  | unreadable text fault hread hfault =>
    have hpairs : pairsOfFile read path text = .error (.unreadable fault) := by
      rw [documentOf] at hread
      rw [pairsOfFile, hread]
      cases fault with
      | malformed => exact absurd rfl hfault
      | _ => rfl
    simp only [load, hfound, pairsAt, hpairs, error_bind]
  | key text pairs hread hkey =>
    have hpairs : pairsOfFile read path text = .ok pairs := by
      rw [documentOf] at hread
      rw [pairsOfFile, hread]
    have hdraft : draftOfPairs pairs = .error .keyNotText := by
      obtain ⟨pair, hpair, hisText⟩ := hkey
      rw [draftOfPairs, if_neg]
      rw [List.all_eq_true]
      exact fun hall ↦ Bool.false_ne_true (hisText.symm.trans (hall pair hpair))
    simp only [load, hfound, pairsAt, hpairs, ok_bind, hdraft, error_bind]

/-- What is loaded is valid. A loading that fails does so with a fault of the configuration, unless
the entry at the path obstructs it: then it fails with the fault of the obstruction, which is none
of the configuration. -/
theorem load_outcomes (read : Yaml.Reader) (find : Path → Found) (environmentCharset : Option String)
    (path : Path) :
    let outcome := load read find environmentCharset (some path)
    (∀ settings, outcome = .ok settings → settings.IsValid) ∧
    (∀ fault, outcome = .error fault →
      fault.isConfiguration = true ∨ Obstructs read path (find path) fault) ∧
    (∀ fault, Obstructs read path (find path) fault →
      outcome = .error fault ∧ fault.isConfiguration = false) := by
  intro outcome
  have hcases : (∃ settings, outcome = .ok settings ∧ settings.IsValid) ∨
      ∃ fault, outcome = .error fault ∧
        (fault.isConfiguration = true ∨ Obstructs read path (find path) fault) := by
    rcases holds_or_refuses_or_obstructs read path (find path) with
      ⟨pairs, hholds⟩ | ⟨fault, hrefuses⟩ | ⟨fault, hobstructs⟩
    · have hload : outcome = _ := load_of_holds hholds environmentCharset
      rw [hload]
      exact (ofDraft_cases _).imp id fun ⟨violations, hviolations⟩ ↦
        ⟨_, hviolations, .inl rfl⟩
    · exact .inr ⟨fault, load_of_refuses hrefuses environmentCharset,
        .inl hrefuses.isConfiguration⟩
    · exact .inr ⟨fault, load_of_obstructs hobstructs environmentCharset, .inr hobstructs⟩
  refine ⟨fun settings hsettings ↦ ?_, fun fault hfault ↦ ?_, fun fault hobstructs ↦
    ⟨load_of_obstructs hobstructs environmentCharset, hobstructs.not_isConfiguration⟩⟩
  · rcases hcases with ⟨loaded, hloaded, hvalid⟩ | ⟨fault, hfault, _⟩
    · rwa [Except.ok.inj (hsettings.symm.trans hloaded)]
    · exact nomatch hsettings.symm.trans hfault
  · rcases hcases with ⟨loaded, hloaded, _⟩ | ⟨other, hother, hkind⟩
    · exact nomatch hfault.symm.trans hloaded
    · rwa [Except.error.inj (hfault.symm.trans hother)]

/-- A key that is a number obstructs a loading, whatever charset the environment has, and so does a
value that stands for itself. -/
theorem load_outcomes_number_as_key :
    let find : Path → Found := fun _ ↦ .file "1: a\n"
    let endless : Path → Found := fun _ ↦ .file "a: !!str &a \x7b=: *a\x7d\n"
    let path := Path.ofString "tplgen.yaml"
    Obstructs Yaml.readDocument path (find path) .keyNotText ∧
      load Yaml.readDocument find (some "latin-1") (some path) = .error .keyNotText ∧
      SettingsFault.keyNotText.isConfiguration = false ∧
      load Yaml.readDocument endless none (some path) = .error (.unreadable .givenUp) := by
  intro find endless path
  have hread : documentOf Yaml.readDocument "1: a\n" =
      .ok (.mapping [(.other, .text (.ofString "a"))]) := by
    have htext : "1: a\n".toList = ['1', ':', ' ', 'a', '\n'] := by decide
    rw [documentOf, htext, ← toOption_eq_some_iff]
    decide +kernel
  have hobstructs : Obstructs Yaml.readDocument path (find path) .keyNotText :=
    .key _ _ hread ⟨_, List.mem_singleton_self _, rfl⟩
  have hgivenUp : documentOf Yaml.readDocument "a: !!str &a \x7b=: *a\x7d\n" = .error .givenUp := by
    decide +kernel
  have hendless : Obstructs Yaml.readDocument path (endless path) (.unreadable .givenUp) :=
    .unreadable _ _ hgivenUp (by decide)
  obtain ⟨hloaded, hforeign⟩ :=
    (load_outcomes Yaml.readDocument find (some "latin-1") path).2.2 _ hobstructs
  exact ⟨hobstructs, hloaded, hforeign,
    ((load_outcomes Yaml.readDocument endless none path).2.2 _ hendless).1⟩

end TemplateCalls.Settings
