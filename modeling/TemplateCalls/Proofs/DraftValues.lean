import TemplateCalls.Proofs.Blanks
import TemplateCalls.Proofs.Outcome
import TemplateCalls.Settings.Loading

/-!
# What a draft of settings gives

A raw value gives a text if it is one or holds the bytes that encode one. The charset of settings is
such a text without the blanks around it, and the function name such a text as it stands. A draft
becomes settings exactly if each value in it will do for its setting; then the charset is not blank
and the function name is an identifier, and such settings are a draft of themselves.
-/

namespace TemplateCalls

open Outcome Text

/-! ## Texts -/

theorem CodeText.chars?_ofChars (characters : List Char) :
    (ofChars characters).chars? = some characters := by
  induction characters with
  | nil => rfl
  | cons first rest ih =>
    rw [ofChars, List.map_cons, chars?, List.mapM_cons]
    rw [ofChars, chars?] at ih
    rw [ih]
    rfl

theorem CodeText.eq_ofChars_of_chars? {text : CodeText} {characters : List Char}
    (hchars : text.chars? = some characters) : text = ofChars characters := by
  induction text generalizing characters with
  | nil =>
    cases hchars
    rfl
  | cons point rest ih =>
    rw [chars?, List.mapM_cons] at hchars
    cases point with
    | surrogate distance => cases hchars
    | character value =>
      have hrest : ((chars? rest).bind fun others ↦ some (value :: others)) = some characters :=
        hchars
      obtain ⟨others, hothers, heq⟩ := Option.bind_eq_some_iff.mp hrest
      cases heq
      rw [ih hothers]
      rfl

/-- The text that a raw value gives: the one that it is, or the one that its bytes encode. -/
inductive RawValue.Gives : RawValue → CodeText → Prop
  | text (value : CodeText) : Gives (.text value) value
  | bytes (values : List UInt8) (value : String) (hbytes : value.toUTF8 = ⟨values.toArray⟩) :
    Gives (.bytes values) (.ofString value)

@[simp]
theorem RawValue.gives_text_iff {value text : CodeText} :
    (RawValue.text value).Gives text ↔ text = value := by
  refine ⟨fun hgives ↦ ?_, fun heq ↦ heq ▸ .text value⟩
  cases hgives
  rfl

/-- Bytes are decoded to the one text that they encode. -/
theorem fromUTF8?_eq_some_iff {bytes : ByteArray} {text : String} :
    String.fromUTF8? bytes = some text ↔ text.toUTF8 = bytes := by
  constructor
  · intro htext
    rw [String.fromUTF8?] at htext
    split at htext
    · cases htext
      rfl
    · cases htext
  · rintro rfl
    have hvalid : text.toUTF8.IsValidUTF8 := text.isValidUTF8
    rw [String.fromUTF8?, dif_pos hvalid]
    rfl

/-- The text that a raw value is taken for is the one that it gives. -/
theorem RawValue.toText_eq_ok_iff {value : RawValue} {text : CodeText} :
    value.toText = .ok text ↔ value.Gives text := by
  constructor
  · intro htext
    cases value with
    | text value =>
      cases htext
      exact .text _
    | bytes values =>
      rw [toText] at htext
      split at htext
      · next written hwritten =>
        cases htext
        exact .bytes values written (fromUTF8?_eq_some_iff.mp hwritten)
      · cases htext
    | other => cases htext
  · intro hgives
    cases hgives with
    | text => rfl
    | bytes values value hbytes => rw [toText, fromUTF8?_eq_some_iff.mpr hbytes]

/-- A raw value gives no two texts. -/
theorem RawValue.Gives.unique {value : RawValue} {text other : CodeText} (htext : value.Gives text)
    (hother : value.Gives other) : text = other :=
  Except.ok.inj ((toText_eq_ok_iff.mpr htext).symm.trans (toText_eq_ok_iff.mpr hother))

namespace Settings

/-! ## Values of settings -/

/-- A charset is a text that is not blank, without the blanks around it. -/
theorem charsetOf_eq_ok_iff {value : RawValue} {charset : CodeText} :
    charsetOf value = .ok charset ↔
      ∃ text, value.Gives text ∧ ¬AllBlank text ∧ IsTrimmed text charset := by
  simp only [charsetOf, bind_eq_ok_iff, RawValue.toText_eq_ok_iff]
  refine exists_congr fun text ↦ and_congr_right fun _ ↦ ?_
  rw [← trimBlanks_eq_nil_iff, ← trimBlanks_eq_iff]
  cases trimBlanks text with
  | nil => simp
  | cons first rest => simp

/-- A function name is a text that is an identifier. -/
theorem functionNameOf_eq_ok_iff {value : RawValue} {name : String} :
    functionNameOf value = .ok name ↔
      value.Gives (.ofString name) ∧ isIdentifier name.toList = true := by
  simp only [functionNameOf, bind_eq_ok_iff, RawValue.toText_eq_ok_iff]
  constructor
  · rintro ⟨text, hgives, hname⟩
    split at hname
    · next characters hfilter =>
      cases hname
      obtain ⟨hchars, hidentifier⟩ := Option.filter_eq_some_iff.mp hfilter
      rw [CodeText.ofString, String.toList_ofList, ← CodeText.eq_ofChars_of_chars? hchars]
      exact ⟨hgives, hidentifier⟩
    · cases hname
  · rintro ⟨hgives, hidentifier⟩
    refine ⟨_, hgives, ?_⟩
    rw [CodeText.ofString, CodeText.chars?_ofChars, Option.filter_some, if_pos hidentifier]
    exact congrArg Except.ok String.ofList_toList

/-- Settings with a charset that is not blank nor has blanks around it, and with an identifier as
the function name. -/
structure IsValid (settings : Settings) : Prop where
  notBlank : ¬AllBlank settings.charset
  trimmed : IsTrimmed settings.charset settings.charset
  identifier : isIdentifier settings.functionName.toList = true

/-- A draft gives settings exactly if each of its values gives its setting. -/
theorem ofDraft_eq_ok_iff {draft : Draft} {settings : Settings} :
    ofDraft draft = .ok settings ↔
      (draft.charset.map charsetOf).getD (.ok (.ofString "UTF-8")) = .ok settings.charset ∧
      (draft.functionName.map functionNameOf).getD (.ok "render") = .ok settings.functionName := by
  rcases settings with ⟨charset, functionName⟩
  unfold ofDraft
  dsimp only
  split
  · next hcharset hfunctionName => rw [hcharset, hfunctionName]; simp
  · next hcharset hfunctionName => rw [hcharset, hfunctionName]; simp
  · next hcharset hfunctionName => rw [hcharset, hfunctionName]; simp
  · next hcharset hfunctionName => rw [hcharset, hfunctionName]; simp

/-- Settings that a draft gives are valid. -/
theorem isValid_of_ofDraft {draft : Draft} {settings : Settings}
    (hsettings : ofDraft draft = .ok settings) : settings.IsValid := by
  obtain ⟨hcharset, hfunctionName⟩ := ofDraft_eq_ok_iff.mp hsettings
  have hvalid : ¬AllBlank settings.charset ∧ IsTrimmed settings.charset settings.charset := by
    cases hgiven : draft.charset with
    | none =>
      rw [hgiven, Option.map_none, Option.getD_none, Except.ok.injEq] at hcharset
      rw [← hcharset]
      exact ⟨by decide, trimBlanks_eq_iff.mp (by decide)⟩
    | some value =>
      rw [hgiven, Option.map_some, Option.getD_some, charsetOf_eq_ok_iff] at hcharset
      obtain ⟨text, _, htext, htrimmed⟩ := hcharset
      exact ⟨htrimmed.not_allBlank htext, htrimmed.self⟩
  refine ⟨hvalid.1, hvalid.2, ?_⟩
  cases hgiven : draft.functionName with
  | none =>
    rw [hgiven, Option.map_none, Option.getD_none, Except.ok.injEq] at hfunctionName
    rw [← hfunctionName]
    decide
  | some value =>
    rw [hgiven, Option.map_some, Option.getD_some, functionNameOf_eq_ok_iff] at hfunctionName
    exact hfunctionName.2

/-- A draft gives valid settings, or is invalid. -/
theorem ofDraft_cases (draft : Draft) :
    (∃ settings, (ofDraft draft).mapError SettingsFault.invalid = .ok settings ∧
      settings.IsValid) ∨
    ∃ violations, (ofDraft draft).mapError SettingsFault.invalid =
      .error (.invalid violations) := by
  cases hsettings : ofDraft draft with
  | ok settings => exact .inl ⟨settings, rfl, isValid_of_ofDraft hsettings⟩
  | error violations => exact .inr ⟨violations, rfl⟩

/-! ## Settings with another charset -/

/-- Valid settings with the charset that is asked for, if one is: it is trimmed and must not be
blank, and the function name stays. -/
theorem IsValid.override_eq_ok_iff {settings : Settings} (hvalid : settings.IsValid)
    {asked : Option CodeText} {changed : Settings} :
    settings.override ⟨asked.map .text, none⟩ = .ok changed ↔
      ¬AllBlank (asked.getD settings.charset) ∧
      IsTrimmed (asked.getD settings.charset) changed.charset ∧
      changed.functionName = settings.functionName := by
  have hdraft : (⟨asked.map .text, none⟩ : Draft).orElse settings.toDraft =
      ⟨some (.text (asked.getD settings.charset)),
        some (.text (.ofString settings.functionName))⟩ := by
    cases asked <;> rfl
  have hname : functionNameOf (.text (.ofString settings.functionName)) =
      .ok settings.functionName :=
    functionNameOf_eq_ok_iff.mpr ⟨.text _, hvalid.identifier⟩
  rw [Settings.override, hdraft, ofDraft_eq_ok_iff]
  simp only [Option.map_some, Option.getD_some]
  rw [hname, Except.ok.injEq, charsetOf_eq_ok_iff, @eq_comm _ settings.functionName]
  simp only [RawValue.gives_text_iff, exists_eq_left, and_assoc]

end Settings

end TemplateCalls
