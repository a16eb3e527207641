import Mathlib.Data.List.TakeWhile
import TemplateCalls.CommandLine.Invocation
import TemplateCalls.Proofs.Outcome

/-!
# Options of the program

The options of the program are flags: none takes a value, so each argument in front of the command
is read by itself, and the command that is found behind them does not depend on how they are spread
over arguments. An option either asks for more records or stands for a command by itself, never
both. So options that ask for more records can be added anywhere in front of the command, or left
out, without any effect on what is done or on what is wrong with the command line.
-/

namespace TemplateCalls.CommandLine

open TemplateCalls.Outcome

variable {request : Request}

/-! ## Flags -/

namespace OptionSpec

variable {κ : Type} {specs : List (OptionSpec κ)}

def IsRead (argument : String) : Prop := isOption argument.toList = true ∧ argument ≠ "--"

instance : DecidablePred IsRead := fun _ ↦ inferInstanceAs (Decidable (_ ∧ _))

theorem IsRead.exists_eq_cons {argument : String} (hread : IsRead argument) :
    ∃ letters, argument.toList = '-' :: letters ∧ letters ≠ [] := by
  obtain ⟨hoption, -⟩ := hread
  rw [isOption, Bool.and_eq_true, beq_iff_eq, decide_eq_true_eq] at hoption
  obtain ⟨letters, hletters⟩ := List.head?_eq_some_iff.mp hoption.1
  refine ⟨letters, hletters, ?_⟩
  rintro rfl
  rw [hletters] at hoption
  exact absurd hoption.2 (by decide)

def givenIn (specs : List (OptionSpec κ)) (argument : String) :
    Except UsageFault (List (Given κ)) :=
  (readOption specs argument.toList none).map (·.given)

theorem readShort_of_flags (hflags : ∀ spec ∈ specs, spec.takesValue = false)
    (next : Option String) (letters : List Char) :
    readShort specs next letters = (readShort specs none letters).map (⟨·.given, false⟩) := by
  induction letters with
  | nil => rfl
  | cons letter letters ih =>
    simp only [readShort]
    cases hfind : specs.find? (·.short == some letter) with
    | none => rfl
    | some spec =>
      simp only [hflags spec (List.mem_of_find?_eq_some hfind), Bool.false_eq_true, if_false, ih]
      cases readShort specs none letters <;> rfl

/-- Where no option takes a value, an argument is read by itself and takes no other. -/
theorem readOption_of_flags (hflags : ∀ spec ∈ specs, spec.takesValue = false)
    (argument : String) (next : Option String) :
    readOption specs argument.toList next = (givenIn specs argument).map (⟨·, false⟩) := by
  rw [givenIn]
  unfold readOption
  obtain ⟨name, value⟩ := splitLong argument.toList
  dsimp only
  cases hfind : specs.find? (·.long.toList == name) with
  | some spec =>
    have htakes := hflags spec (List.mem_of_find?_eq_some hfind)
    cases value <;> simp only [readLong, htakes] <;> rfl
  | none =>
    dsimp only
    split
    · rfl
    · rw [readShort_of_flags hflags]
      cases readShort specs none argument.toList.tail <;> rfl

/-- Flags are read one by one up to where other arguments begin. -/
theorem readFrom_of_flags (hflags : ∀ spec ∈ specs, spec.takesValue = false)
    {options behind others : List String} (hoptions : ∀ option ∈ options, IsRead option)
    (hbehind : readFrom specs false false behind = .ok ([], others)) :
    readFrom specs false false (options ++ behind) =
      (options.mapM (givenIn specs)).map fun given ↦ (given.flatten, others) := by
  induction options with
  | nil => exact hbehind
  | cons option options ih =>
    obtain ⟨⟨hoption, hdashes⟩, hoptions⟩ := List.forall_mem_cons.mp hoptions
    rw [List.cons_append, readFrom, if_neg (by simpa using hdashes), if_pos hoption,
      readOption_of_flags hflags, List.mapM_cons]
    cases givenIn specs option with
    | error fault => rfl
    | ok given =>
      change (readFrom specs false false (options ++ behind) >>= _) = _
      rw [ih hoptions]
      cases options.mapM (givenIn specs) <;> rfl

theorem splitLong_of_not_mem {argument : List Char} (hsign : '=' ∉ argument) :
    splitLong argument = (argument, none) := by
  have hdrop : argument.dropWhile (· != '=') = [] :=
    List.dropWhile_eq_nil_iff.mpr fun _ hmem ↦ bne_iff_ne.mpr (ne_of_mem_of_not_mem hmem hsign)
  rw [splitLong, hdrop]

theorem eq_of_splitLong {argument name : List Char} (hsplit : splitLong argument = (name, none)) :
    argument = name := by
  unfold splitLong at hsplit
  split at hsplit
  · cases hsplit
  · exact (Prod.mk.inj hsplit).1

/-- A flag is given by its long name, or by letters. -/
theorem givenIn_eq_ok_cases (hflags : ∀ spec ∈ specs, spec.takesValue = false)
    {argument : String} {given : List (Given κ)} (hgiven : givenIn specs argument = .ok given) :
    (∃ spec ∈ specs, argument = spec.long ∧ given = [⟨spec.key, none⟩]) ∨
      ∃ reading, readShort specs none argument.toList.tail = .ok reading ∧
        given = reading.given := by
  unfold givenIn readOption at hgiven
  cases hsplit : splitLong argument.toList with
  | mk name value =>
    rw [hsplit] at hgiven
    dsimp only at hgiven
    cases hfind : specs.find? (·.long.toList == name) with
    | some spec =>
      have hspec := List.mem_of_find?_eq_some hfind
      have hname : spec.long.toList = name := by simpa using List.find?_some hfind
      rw [hfind] at hgiven
      dsimp only [readLong] at hgiven
      rw [hflags spec hspec] at hgiven
      cases value with
      | some value => cases hgiven
      | none =>
        cases hgiven
        have hargument := eq_of_splitLong hsplit
        exact .inl ⟨spec, hspec, String.toList_inj.mp (hargument.trans hname.symm), rfl⟩
    | none =>
      rw [hfind] at hgiven
      dsimp only at hgiven
      split at hgiven
      · cases hgiven
      · cases hread : readShort specs none argument.toList.tail with
        | error fault =>
          rw [hread] at hgiven
          cases hgiven
        | ok reading =>
          rw [hread] at hgiven
          exact .inr ⟨reading, rfl, (Except.ok.inj hgiven).symm⟩

end OptionSpec

/-! ## Options for more records -/

open OptionSpec

/-- Whether an option asks for more records: by its long name, or by its letter once or more. -/
def asksForRecords (option : String) : Bool :=
  option == "--verbose" ||
    match option.toList with
    | '-' :: letters => !letters.isEmpty && letters.all (· == 'v')
    | _ => false

theorem flags_programOptions : ∀ spec ∈ programOptions, spec.takesValue = false := by decide

theorem long_of_verbose :
    ∀ spec ∈ programOptions, spec.key = .verbose → spec.long = "--verbose" := by decide

/-- Every letter of a cluster of short options is a request for records. -/
theorem readShort_programOptions {letters : List Char} (hletters : letters.all (· == 'v') = true)
    (next : Option String) :
    readShort programOptions next letters =
      .ok ⟨List.replicate letters.length ⟨.verbose, none⟩, false⟩ := by
  induction letters with
  | nil => rfl
  | cons letter letters ih =>
    rw [List.all_cons, Bool.and_eq_true, beq_iff_eq] at hletters
    obtain ⟨rfl, hletters⟩ := hletters
    change (readShort programOptions next letters >>= _) = _
    rw [ih hletters]
    rfl

/-- No other letter is a short option. -/
theorem all_of_readShort_programOptions {letters : List Char} {next : Option String}
    {reading : OptionSpec.Reading ProgramOption}
    (hread : readShort programOptions next letters = .ok reading) :
    letters.all (· == 'v') = true := by
  induction letters generalizing reading with
  | nil => rfl
  | cons letter letters ih =>
    by_cases hletter : letter = 'v'
    · subst hletter
      obtain ⟨more, hmore, _⟩ := bind_eq_ok_iff.mp hread
      rw [List.all_cons, ih hmore]
      rfl
    · have hfind : programOptions.find? (·.short == some letter) = none := by
        simp [programOptions, Ne.symm hletter]
      rw [readShort, hfind] at hread
      cases hread

theorem givenIn_of_asksForRecords {option : String} (hasks : asksForRecords option = true) :
    ∃ number, givenIn programOptions option =
      .ok (List.replicate (number + 1) ⟨.verbose, none⟩) := by
  rw [asksForRecords, Bool.or_eq_true, beq_iff_eq] at hasks
  rcases hasks with rfl | hshort
  · exact ⟨0, rfl⟩
  · split at hshort
    · next letters hoption =>
      rw [Bool.and_eq_true, Bool.not_eq_true', List.isEmpty_eq_false_iff] at hshort
      obtain ⟨letter, rest, rfl⟩ := List.exists_cons_of_ne_nil hshort.1
      have hall := List.all_eq_true.mp hshort.2
      obtain rfl : letter = 'v' := beq_iff_eq.mp (hall letter List.mem_cons_self)
      have hsign : '=' ∉ '-' :: 'v' :: rest := by
        intro hmem
        rcases List.mem_cons.mp hmem with heq | hmem
        · exact absurd heq (by decide)
        · exact absurd (hall '=' hmem) (by decide)
      refine ⟨rest.length, ?_⟩
      unfold givenIn readOption
      rw [hoption, splitLong_of_not_mem hsign]
      change (readShort programOptions none ('v' :: rest)).map _ = _
      rw [readShort_programOptions hshort.2]
      rfl
    · cases hshort

/-- No other option that is read asks for more records. -/
theorem asksForRecords_of_givenIn {option : String} {given : List (Given ProgramOption)}
    (hoption : IsRead option) (hgiven : givenIn programOptions option = .ok given)
    (hverbose : given.any (·.key == .verbose) = true) : asksForRecords option = true := by
  rw [asksForRecords, Bool.or_eq_true, beq_iff_eq]
  rcases givenIn_eq_ok_cases flags_programOptions hgiven with
    ⟨spec, hspec, rfl, rfl⟩ | ⟨reading, hletters, -⟩
  · have hkey : spec.key = .verbose := by simpa using hverbose
    exact .inl (long_of_verbose spec hspec hkey)
  · obtain ⟨letters, hargument, hnonempty⟩ := hoption.exists_eq_cons
    rw [hargument] at hletters ⊢
    have hall : letters.all (· == 'v') = true := all_of_readShort_programOptions hletters
    exact .inr (Bool.and_eq_true_iff.mpr ⟨by simpa using hnonempty, hall⟩)

/-! ## Commands -/

/-- What options of the program ask for: a command that needs no other, or none. -/
def askedFor (options : List String) : Except UsageFault (Option Command) :=
  (options.mapM (givenIn programOptions)).map fun given ↦ immediateCommand? given.flatten

theorem askedFor_cons (option : String) (options : List String) :
    askedFor (option :: options) = do
      let given ← givenIn programOptions option
      let command? ← askedFor options
      return (immediateCommand? given).or command? := by
  rw [askedFor, askedFor, List.mapM_cons]
  cases givenIn programOptions option with
  | error fault => rfl
  | ok given =>
    cases options.mapM (givenIn programOptions) with
    | error fault => rfl
    | ok more => exact congrArg Except.ok (List.findSome?_append ..)

theorem immediateCommand?_replicate_verbose (number : Nat) :
    immediateCommand? (List.replicate number ⟨.verbose, none⟩) = none :=
  List.findSome?_replicate_of_isNone rfl

/-- A request for records asks for no command. -/
theorem askedFor_cons_of_asksForRecords {option : String} (hasks : asksForRecords option = true)
    (options : List String) : askedFor (option :: options) = askedFor options := by
  obtain ⟨number, hgiven⟩ := givenIn_of_asksForRecords hasks
  rw [askedFor_cons, hgiven, ok_bind, immediateCommand?_replicate_verbose]
  cases askedFor options <;> rfl

/-- What options ask for does not depend on those that ask for more records. -/
theorem askedFor_filter (options : List String) :
    askedFor (options.filter (!asksForRecords ·)) = askedFor options := by
  induction options with
  | nil => rfl
  | cons option options ih =>
    cases hasks : asksForRecords option with
    | true =>
      rw [List.filter_cons_of_neg (by rw [hasks]; decide), ih,
        askedFor_cons_of_asksForRecords hasks]
    | false =>
      rw [List.filter_cons_of_pos (by rw [hasks]; rfl), askedFor_cons, askedFor_cons, ih]

/-- Records are wanted exactly if one of the options asks for them. -/
theorem any_verbose_eq {options : List String} {given : List (List (Given ProgramOption))}
    (hoptions : ∀ option ∈ options, IsRead option)
    (hgiven : options.mapM (givenIn programOptions) = .ok given) :
    given.flatten.any (·.key == .verbose) = options.any asksForRecords := by
  induction options generalizing given with
  | nil =>
    cases hgiven
    rfl
  | cons option options ih =>
    obtain ⟨hoption, hoptions⟩ := List.forall_mem_cons.mp hoptions
    rw [List.mapM_cons, bind_eq_ok_iff] at hgiven
    obtain ⟨first, hfirst, hrest⟩ := hgiven
    obtain ⟨more, hmore, hcons⟩ := bind_eq_ok_iff.mp hrest
    cases hcons
    have hany : first.any (·.key == .verbose) = asksForRecords option := by
      rw [Bool.eq_iff_iff]
      refine ⟨asksForRecords_of_givenIn hoption hfirst, fun hasks ↦ ?_⟩
      obtain ⟨number, hreplicate⟩ := givenIn_of_asksForRecords hasks
      rw [Except.ok.inj (hfirst.symm.trans hreplicate)]
      rfl
    rw [List.flatten_cons, List.any_append, List.any_cons, hany, ih hoptions hmore]

theorem eq_of_askedFor {options : List String} {command : Command}
    (hasked : askedFor options = .ok (some command)) :
    command = .showVersion ∨ command = .showHelp := by
  rw [askedFor] at hasked
  cases hgiven : options.mapM (givenIn programOptions) with
  | error fault =>
    rw [hgiven] at hasked
    cases hasked
  | ok given =>
    rw [hgiven] at hasked
    obtain ⟨option, _, hoption⟩ := List.exists_of_findSome?_eq_some (Except.ok.inj hasked)
    cases hkey : option.key with
    | version =>
      rw [hkey] at hoption
      exact .inl (Option.some.inj hoption).symm
    | verbose =>
      rw [hkey] at hoption
      cases hoption
    | help =>
      rw [hkey] at hoption
      exact .inr (Option.some.inj hoption).symm

/-- The command of a command line for a compilation: one that an option asks for, or the one that is
written. -/
def commandOf (options arguments : List String) : Except UsageFault Command := do
  match ← askedFor options with
  | some command => return command
  | none => readCompile arguments

/-- Options that differ in requests for records alone lead to the same command. -/
theorem commandOf_congr {options others : List String}
    (hsame : options.filter (!asksForRecords ·) = others.filter (!asksForRecords ·))
    (arguments : List String) : commandOf options arguments = commandOf others arguments := by
  rw [commandOf, commandOf, ← askedFor_filter options, hsame, askedFor_filter]

section line

variable {options others separator : List String} (arguments : List String)

/-- Options in front of the command are read one by one. -/
theorem read_options (hoptions : ∀ option ∈ options, IsRead option)
    (hseparator : separator = [] ∨ separator = ["--"]) :
    Invocation.read (options ++ separator ++ "compile" :: arguments) = do
      match ← askedFor options with
      | some command => return { command }
      | none => return ⟨← readCompile arguments, options.any asksForRecords⟩ := by
  have hbehind : readFrom programOptions false false (separator ++ "compile" :: arguments) =
      .ok ([], "compile" :: arguments) := by
    rcases hseparator with rfl | rfl <;> rfl
  have hnonempty : (options ++ separator ++ "compile" :: arguments).isEmpty = false := by simp
  have hread : OptionSpec.read programOptions false
      (options ++ separator ++ "compile" :: arguments) =
        (options.mapM (givenIn programOptions)).map fun given ↦
          (given.flatten, "compile" :: arguments) := by
    rw [OptionSpec.read, List.append_assoc,
      readFrom_of_flags flags_programOptions hoptions hbehind]
  rw [Invocation.read, hnonempty, hread, askedFor]
  cases hgiven : options.mapM (givenIn programOptions) with
  | error fault => rfl
  | ok given =>
    simp only [Except.map, ok_bind, Bool.false_eq_true, if_false]
    cases immediateCommand? given.flatten with
    | some command => rfl
    | none =>
      rw [← any_verbose_eq hoptions hgiven]
      rfl

/-- A line that is read as a compilation asks for more records exactly if one of its options does. -/
theorem verbose_of_read_options {verbose : Bool} (hoptions : ∀ option ∈ options, IsRead option)
    (hseparator : separator = [] ∨ separator = ["--"])
    (hread : Invocation.read (options ++ separator ++ "compile" :: arguments) =
      .ok ⟨.compile request, verbose⟩) : verbose = options.any asksForRecords := by
  rw [read_options arguments hoptions hseparator, bind_eq_ok_iff] at hread
  obtain ⟨command?, hasked, hcommand⟩ := hread
  cases command? with
  | none =>
    obtain ⟨command, _, hinvocation⟩ := bind_eq_ok_iff.mp hcommand
    exact (congrArg Invocation.verbose (Except.ok.inj hinvocation)).symm
  | some command => rcases eq_of_askedFor hasked with rfl | rfl <;> cases hcommand

end line

end TemplateCalls.CommandLine
