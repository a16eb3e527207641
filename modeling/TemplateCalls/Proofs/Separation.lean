import TemplateCalls.Proofs.Scanner

/-!
# Separators outside brackets and quoted texts

A separator separates only where the scanner is in plain code and no bracket is open; within
brackets, quoted texts and comments it is a character like any other. A text is cut at the first
separator that separates. A self-contained text in which none does stays whole: whatever code stands
after it, a cut falls behind it.
-/

namespace TemplateCalls.Scanner

/-- The text before the first separator in plain code outside all brackets, and the text after it.
-/
def cut? (separator : Char) (state : State) : List Char → Option (List Char × List Char)
  | [] => none
  | character :: rest =>
    if state.isPlain && character == separator then some ([], rest)
    else do
      let next ← step state character
      let (before, after) ← cut? separator next rest
      return (character :: before, after)

variable {separator : Char}

theorem length_lt_of_cut? {state : State} {text before after : List Char}
    (hcut : cut? separator state text = some (before, after)) : after.length < text.length := by
  induction text generalizing state before with
  | nil => cases hcut
  | cons character rest ih =>
    rw [cut?] at hcut
    split at hcut
    · cases hcut
      simp
    · obtain ⟨next, _, hnext⟩ := Option.bind_eq_some_iff.mp hcut
      obtain ⟨⟨others, _⟩, hothers, heq⟩ := Option.bind_eq_some_iff.mp hnext
      cases heq
      have hlt := ih hothers
      simp only [List.length_cons]
      omega

theorem cut?_separator {state : State} (hplain : state.isPlain = true) (rest : List Char) :
    cut? separator state (separator :: rest) = some ([], rest) := by
  rw [cut?, hplain, beq_self_eq_true, Bool.and_self, if_pos rfl]

/-- Any other character is passed over. -/
theorem cut?_cons {state next : State} {character : Char} (rest : List Char)
    (hpasses : (state.isPlain && character == separator) = false)
    (hstep : step state character = some next) :
    cut? separator state (character :: rest) =
      (cut? separator next rest).map fun parts ↦ (character :: parts.1, parts.2) := by
  rw [cut?, hpasses, hstep, if_neg Bool.false_ne_true]
  cases hcut : cut? separator next rest <;> simp [hcut]

theorem cut?_cons_of_not_isPlain {state next : State} {character : Char} (rest : List Char)
    (hplain : state.isPlain = false) (hstep : step state character = some next) :
    cut? separator state (character :: rest) =
      (cut? separator next rest).map fun parts ↦ (character :: parts.1, parts.2) :=
  cut?_cons rest (by rw [hplain, Bool.false_and]) hstep

/-- Where nothing is cut, the cut is looked for in what follows. -/
theorem cut?_append {state middle : State} {first : List Char}
    (hscan : scan state first = some middle) (hcut : cut? separator state first = none)
    (second : List Char) :
    cut? separator state (first ++ second) =
      (cut? separator middle second).map fun parts ↦ (first ++ parts.1, parts.2) := by
  induction first generalizing state with
  | nil =>
    cases hscan
    exact Option.map_id'.symm
  | cons character rest ih =>
    rw [scan_cons] at hscan
    obtain ⟨next, hstep, hrest⟩ := Option.bind_eq_some_iff.mp hscan
    cases hpasses : state.isPlain && character == separator with
    | true =>
      rw [cut?, hpasses] at hcut
      cases hcut
    | false =>
      rw [cut?_cons rest hpasses hstep, Option.map_eq_none_iff] at hcut
      rw [List.cons_append, cut?_cons _ hpasses hstep, ih hrest hcut, Option.map_map]
      rfl

/-- Nothing is cut in a text that leaves the scanner in a state that is not plain. -/
theorem cut?_of_forall_step {state : State} {text : List Char} (hplain : state.isPlain = false)
    (hstep : ∀ character ∈ text, step state character = some state) :
    cut? separator state text = none := by
  induction text with
  | nil => rfl
  | cons character rest ih =>
    rw [List.forall_mem_cons] at hstep
    rw [cut?_cons_of_not_isPlain rest hplain hstep.1, ih hstep.2, Option.map_none]

/-- Nothing is cut in a text without the separator. -/
theorem cut?_of_not_mem {state : State} {text : List Char} (hmem : separator ∉ text) :
    cut? separator state text = none := by
  induction text generalizing state with
  | nil => rfl
  | cons character rest ih =>
    rw [List.mem_cons, not_or] at hmem
    have hpasses : (state.isPlain && character == separator) = false := by
      rw [beq_eq_false_iff_ne.mpr (Ne.symm hmem.1), Bool.and_false]
    rw [cut?, hpasses, if_neg Bool.false_ne_true]
    cases step state character with
    | none => rfl
    | some next =>
      simp only [Option.bind_eq_bind, Option.bind_some, ih hmem.2]
      rfl

theorem cut?_congr {first second : State} {character : Char}
    (hplain : first.isPlain = second.isPlain) (hstep : step first character = step second character)
    (rest : List Char) :
    cut? separator first (character :: rest) = cut? separator second (character :: rest) := by
  rw [cut?, cut?, hplain, hstep]

/-- After plain code the cut is looked for as at the start. -/
theorem cut?_of_isPlain {state : State} {text : List Char} (hplain : state.isPlain = true)
    (htext : startsPlain text = true) : cut? separator state text = cut? separator start text := by
  cases text with
  | nil => cases htext
  | cons character rest =>
    have hcharacter : mark? character = none := Option.isNone_iff_eq_none.mp htext
    have hstep : step state character = step start character := by
      have hwithin := step_of_isPlain hplain hcharacter []
      simpa only [State.within, List.append_nil] using hwithin
    exact cut?_congr hplain hstep rest

theorem dropSuffix?_append (first second : List Char) :
    (first ++ second).dropSuffix? second = some first :=
  List.dropSuffix?_eq_some_iff.mpr ⟨second, rfl, BEq.rfl⟩

/-! ## Texts that stay whole -/

/-- A self-contained text in which no separator separates. -/
structure IsWhole (separator : Char) (text : String) : Prop where
  selfContained : isSelfContained text = true
  uncut : cut? separator start text.toList = none

instance (separator : Char) (text : String) : Decidable (IsWhole separator text) :=
  decidable_of_iff
    (isSelfContained text = true ∧ cut? separator start text.toList = none)
    ⟨fun h ↦ ⟨h.1, h.2⟩, fun h ↦ ⟨h.selfContained, h.uncut⟩⟩

/-- A cut falls behind a text that stays whole. -/
theorem IsWhole.cut?_append {text : String} (htext : IsWhole separator text) {rest : List Char}
    (hrest : startsPlain rest = true) :
    cut? separator start (text.toList ++ rest) =
      (cut? separator start rest).map fun parts ↦ (text.toList ++ parts.1, parts.2) := by
  obtain ⟨last, hscan, hlast⟩ := isSelfContained_iff.mp htext.selfContained
  rw [Scanner.cut?_append hscan htext.uncut, cut?_of_isPlain hlast hrest]

theorem IsWhole.cut?_append_separator {text : String} (htext : IsWhole separator text)
    (hseparator : mark? separator = none) (rest : List Char) :
    cut? separator start (text.toList ++ separator :: rest) = some (text.toList, rest) := by
  have hrest : startsPlain (separator :: rest) = true := Option.isNone_iff_eq_none.mpr hseparator
  rw [htext.cut?_append hrest, cut?_separator rfl, Option.map_some, List.append_nil]

theorem step_closing_of_isPlain {state : State} (hplain : state.isPlain = true) :
    step state ')' = none := by
  rcases isPlain_iff.mp hplain with rfl | ⟨mark, rfl⟩
  · rfl
  · cases mark <;> rfl

/-- A bracket that closes nothing does not occur where the scanner goes on. -/
theorem cut?_closing_of_scan {state last : State} {text : List Char}
    (hscan : scan state text = some last) : cut? ')' state text = none := by
  induction text generalizing state with
  | nil => rfl
  | cons character rest ih =>
    rw [scan_cons] at hscan
    obtain ⟨next, hstep, hrest⟩ := Option.bind_eq_some_iff.mp hscan
    have hpasses : (state.isPlain && character == ')') = false := by
      by_contra hcloses
      simp only [Bool.not_eq_false, Bool.and_eq_true, beq_iff_eq] at hcloses
      rw [hcloses.2, step_closing_of_isPlain hcloses.1] at hstep
      cases hstep
    rw [cut?_cons rest hpasses hstep, ih hrest, Option.map_none]

theorem isWhole_closing {text : String} (htext : isSelfContained text = true) :
    IsWhole ')' text := by
  obtain ⟨_, hscan, _⟩ := isSelfContained_iff.mp htext
  exact ⟨htext, cut?_closing_of_scan hscan⟩

end TemplateCalls.Scanner
