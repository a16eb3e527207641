import TemplateCalls.Proofs.DraftValues

/-!
# Changes of settings

Settings that a draft gives are given by the draft that they are themselves: what has been trimmed
is trimmed, and an identifier is one however it was written. So a change that gives nothing changes
nothing. For the same reason a change on top of another is one change, in which the later one takes
precedence: of a value that was accepted before it makes no difference whether it is checked again
as it was given or as it was understood, and of any other it is the same fault both times.
-/

namespace TemplateCalls.Settings

open Outcome Text

/-! ## Values that have been accepted -/

theorem charsetOf_text {value : RawValue} {charset : CodeText}
    (hvalue : charsetOf value = .ok charset) : charsetOf (.text charset) = .ok charset := by
  obtain ⟨text, _, hnotBlank, htrimmed⟩ := charsetOf_eq_ok_iff.mp hvalue
  exact charsetOf_eq_ok_iff.mpr
    ⟨charset, .text charset, htrimmed.not_allBlank hnotBlank, htrimmed.self⟩

theorem functionNameOf_text {value : RawValue} {name : String}
    (hvalue : functionNameOf value = .ok name) :
    functionNameOf (.text (.ofString name)) = .ok name :=
  functionNameOf_eq_ok_iff.mpr ⟨.text _, (functionNameOf_eq_ok_iff.mp hvalue).2⟩

/-- Valid settings are what their own draft gives. -/
theorem IsValid.ofDraft_toDraft {settings : Settings} (hvalid : settings.IsValid) :
    ofDraft settings.toDraft = .ok settings :=
  ofDraft_eq_ok_iff.mpr
    ⟨charsetOf_eq_ok_iff.mpr ⟨_, .text _, hvalid.notBlank, hvalid.trimmed⟩,
      functionNameOf_eq_ok_iff.mpr ⟨.text _, hvalid.identifier⟩⟩

/-! ## Changes -/

/-- The value that counts for the charset once a change has been made. -/
def charsetAfter (settings : Settings) (change : Draft) : RawValue :=
  change.charset.getD (.text settings.charset)

def functionNameAfter (settings : Settings) (change : Draft) : RawValue :=
  change.functionName.getD (.text (.ofString settings.functionName))

theorem override_eq (settings : Settings) (change : Draft) :
    settings.override change =
      ofDraft ⟨some (settings.charsetAfter change), some (settings.functionNameAfter change)⟩ := by
  rcases change with ⟨charset, functionName⟩
  cases charset <;> cases functionName <;> rfl

theorem override_eq_ok_iff {settings changed : Settings} {change : Draft} :
    settings.override change = .ok changed ↔
      charsetOf (settings.charsetAfter change) = .ok changed.charset ∧
      functionNameOf (settings.functionNameAfter change) = .ok changed.functionName := by
  rw [override_eq, ofDraft_eq_ok_iff]
  rfl

/-- Only what the values are understood as matters to a draft. -/
theorem ofDraft_congr {charset charset' functionName functionName' : RawValue}
    (hcharset : charsetOf charset = charsetOf charset')
    (hname : functionNameOf functionName = functionNameOf functionName') :
    ofDraft ⟨some charset, some functionName⟩ = ofDraft ⟨some charset', some functionName'⟩ := by
  simp only [ofDraft, Option.map_some, Option.getD_some, hcharset, hname]

/-- What settings are changed to by one change and then by another. -/
theorem override_of_override {settings changed : Settings} {first second : Draft}
    (hfirst : settings.override first = .ok changed) :
    changed.override second = settings.override (second.orElse first) := by
  obtain ⟨hcharset, hname⟩ := override_eq_ok_iff.mp hfirst
  rw [override_eq, override_eq]
  apply ofDraft_congr
  · unfold charsetAfter Draft.orElse
    cases second.charset with
    | some value => rfl
    | none => exact (charsetOf_text hcharset).trans hcharset.symm
  · unfold functionNameAfter Draft.orElse
    cases second.functionName with
    | some value => rfl
    | none => exact (functionNameOf_text hname).trans hname.symm

/-- Settings that a draft gives have a charset without blanks around it and an identifier as their
function name, and are given by their own draft and left alone by a change that gives nothing. Where
a change is accepted, another one after it does what both do at once, the later before the earlier:
it gives the same settings or is refused for the same violations. -/
theorem changes_compose :
    (∀ (draft : Draft) (settings : Settings), ofDraft draft = .ok settings →
      settings.charset ≠ [] ∧ trimBlanks settings.charset = settings.charset ∧
      isIdentifier settings.functionName.toList = true ∧
      ofDraft settings.toDraft = .ok settings ∧ settings.override {} = .ok settings) ∧
    ∀ (settings changed : Settings) (first second : Draft),
      settings.override first = .ok changed →
        changed.override second = settings.override (second.orElse first) := by
  refine ⟨fun draft settings hsettings ↦ ?_, fun _ _ _ _ ↦ override_of_override⟩
  have hvalid := isValid_of_ofDraft hsettings
  have htrimmed := trimBlanks_of_isTrimmed hvalid.trimmed
  refine ⟨fun hempty ↦ hvalid.notBlank ?_, htrimmed, hvalid.identifier, hvalid.ofDraft_toDraft,
    hvalid.ofDraft_toDraft⟩
  rw [← trimBlanks_eq_nil_iff, htrimmed, hempty]

/-- Bytes with blanks around them for the charset, and then a number for the function name. -/
theorem changes_compose_refused :
    let settings : Settings := {}
    let changed : Settings := ⟨.ofString "ascii", "render"⟩
    let first : Draft := { charset := some (.bytes " ascii\u3000".toUTF8.toList) }
    let second : Draft := { functionName := some .other }
    ofDraft {} = .ok settings ∧ settings.override {} = .ok settings ∧
      settings.override first = .ok changed ∧
      changed.override second = .error ⟨none, some .notText⟩ ∧
      settings.override (second.orElse first) = .error ⟨none, some .notText⟩ := by
  intro settings changed first second
  have hfirst : settings.override first = .ok changed := by
    rw [← toOption_eq_some_iff]
    decide +kernel
  have hrefused : changed.override second = .error ⟨none, some .notText⟩ := by rfl
  refine ⟨rfl, (changes_compose.1 {} settings rfl).2.2.2.2, hfirst, hrefused, ?_⟩
  rw [← changes_compose.2 settings changed first second hfirst, hrefused]

end TemplateCalls.Settings
