import Mathlib.Data.List.Basic
import TemplateCalls.Expression
import TemplateCalls.Proofs.Entries
import TemplateCalls.Proofs.Keys

/-!
# The keys of a literal

A literal is described here by its arguments as a whole. A positional argument has as its key one
more than the largest integer key of all arguments before it, or zero if there is none. The literal
is a list if every argument is positional or has its own place as its index. The one pass that
builds the literal keeps only the next free index; it is tied to the largest key before, and to the
place as long as the literal may be a list.

Integers are taken to be short enough to be read and written.
-/

namespace TemplateCalls.Expression

/-! ## The description of a literal -/

def explicitIndex? (argument : Argument) : Option Nat :=
  if argument.kind = .index then
    (argument.key.filter Argument.isIndexKey).map fun key ↦ Decimal.value key.toList
  else none

/-- One more than the largest of some numbers, or zero if there are none. -/
def nextAfter (numbers : List Nat) : Nat := (numbers.max?.map (· + 1)).getD 0

/-- The integer key of an argument, by the integer keys of all arguments before it. -/
def integerKey? (earlier : List Nat) (argument : Argument) : Option Nat :=
  if argument.kind = .positional then some (nextAfter earlier) else explicitIndex? argument

def integerKeysAfter (earlier : List Nat) : List Argument → List (Option Nat)
  | [] => []
  | argument :: rest =>
    let key := integerKey? earlier argument
    key :: integerKeysAfter (key.toList ++ earlier) rest

def integerKeys (arguments : List Argument) : List (Option Nat) := integerKeysAfter [] arguments

def writtenKey (argument : Argument) : Option Nat → String
  | some number => .ofList (Decimal.digits number)
  | none =>
    if argument.kind = .literal then Text.quote (argument.key.getD "") else argument.key.getD ""

/-- What is wrong with a key, whatever the other arguments are. -/
def keyFault? (argument : Argument) : Option Malformed :=
  match argument.kind with
  | .positional => none
  | .index =>
    if argument.key.any Argument.isIndexKey then none else some (.invalidIndex argument.key)
  | kind => if argument.key.all String.isEmpty then some (.emptyKey kind) else none

/-- Whether arguments from a place on are positional or have their places as their indices. -/
def isListFrom (place : Nat) (arguments : List Argument) : Bool :=
  (arguments.zipIdx place).all fun (argument, place) ↦
    argument.kind == .positional || explicitIndex? argument == some place

def dictionaryItems (arguments : List Argument) : List String :=
  List.zipWith (fun argument key? ↦ writtenKey argument key? ++ ": " ++ argument.value) arguments
    (integerKeys arguments)

/-- The literal as its entries describe it. -/
def describedLiteral (entries : List Entry) : Except Fault String :=
  match entries.findSome? Entry.refusal? with
  | some fault => .error fault
  | none =>
    let arguments := entries.filterMap Entry.argument?
    match arguments.findSome? keyFault? with
    | some cause => .error (.malformed cause)
    | none =>
      if isListFrom 0 arguments then
        .ok ("[" ++ ", ".intercalate (arguments.map (·.value)) ++ "]")
      else .ok ("\x7b" ++ ", ".intercalate (dictionaryItems arguments) ++ "\x7d")

/-- All indices that are given can be read, and all integer keys can be written. -/
structure WithinLimits (earlier : List Nat) (arguments : List Argument) : Prop where
  read : ∀ argument ∈ arguments, argument.kind = .index →
    ∀ key, argument.key = some key → Argument.isIndexKey key = true →
      key.toList.length ≤ Decimal.digitLimit
  written : ∀ number, some number ∈ integerKeysAfter earlier arguments →
    number < 10 ^ Decimal.digitLimit

/-! ## The next free index -/

theorem nextAfter_nil : nextAfter [] = 0 := rfl

/-- One more integer key raises the next index to above it. -/
theorem nextAfter_cons (number : Nat) (earlier : List Nat) :
    nextAfter (number :: earlier) = max (nextAfter earlier) (number + 1) := by
  unfold nextAfter
  rw [List.max?_cons]
  cases earlier.max? with
  | none => simp
  | some largest =>
    simp only [Option.elim_some, Option.map_some, Option.getD_some]
    omega

theorem nextAfter_cons_self (earlier : List Nat) :
    nextAfter (nextAfter earlier :: earlier) = nextAfter earlier + 1 := by
  rw [nextAfter_cons]
  omega

/-! ## One argument -/

variable {earlier : List Nat} {argument : Argument}

/-- An argument whose key does not suit its kind is refused. -/
theorem ofArgument_of_keyFault {cause : Malformed} (next : Nat)
    (hfault : keyFault? argument = some cause) :
    Item.ofArgument next argument = .error (.malformed cause) := by
  unfold keyFault? at hfault
  unfold Item.ofArgument
  cases hkind : argument.kind with
  | positional =>
    rw [hkind] at hfault
    cases hfault
  | index =>
    simp only [hkind, Option.ite_none_left_eq_some, Bool.not_eq_true, Option.some.injEq] at hfault
    rw [← hfault.2]
    simp only [Argument.indexValue_of_invalid hfault.1, Outcome.error_bind]
  | literal | computed =>
    simp only [hkind, Option.ite_none_right_eq_some, Option.some.injEq] at hfault
    have hkeyed : argument.kind ≠ .positional := by
      rw [hkind]
      decide
    have hsource := Argument.keySource_of_empty hkeyed hfault.1
    rw [hkind] at hsource
    rw [← hfault.2]
    simp only [hsource, Outcome.error_bind]

/-- A key that suits the kind of index. -/
theorem exists_index_of_sound (hkind : argument.kind = .index)
    (hfault : keyFault? argument = none) :
    ∃ key, argument.key = some key ∧ Argument.isIndexKey key = true := by
  unfold keyFault? at hfault
  cases hkey : argument.key with
  | none => simp [hkind, hkey] at hfault
  | some key => exact ⟨key, rfl, by simpa [hkind, hkey] using hfault⟩

/-- A key that suits a kind whose keys are written. -/
theorem exists_key_of_sound (hkind : argument.kind = .literal ∨ argument.kind = .computed)
    (hfault : keyFault? argument = none) :
    ∃ key, argument.key = some key ∧ key.isEmpty = false := by
  unfold keyFault? at hfault
  cases hkey : argument.key with
  | none => rcases hkind with hkind | hkind <;> simp [hkind, hkey] at hfault
  | some key =>
    refine ⟨key, rfl, ?_⟩
    rcases hkind with hkind | hkind <;> simpa [hkind, hkey] using hfault

/-- Any other argument is written with the key that it is assigned, and the next free index stays
above all integer keys. -/
theorem ofArgument_of_sound {rest : List Argument} (hfault : keyFault? argument = none)
    (hlimits : WithinLimits earlier (argument :: rest)) :
    Item.ofArgument (nextAfter earlier) argument =
      .ok (⟨writtenKey argument (integerKey? earlier argument), argument.value,
          argument.kind == .positional || explicitIndex? argument == some (nextAfter earlier)⟩,
        nextAfter ((integerKey? earlier argument).toList ++ earlier)) := by
  have hwritten : ∀ number, integerKey? earlier argument = some number →
      Decimal.write number = .ok (.ofList (Decimal.digits number)) := fun number hnumber ↦
    Decimal.write_eq_ok (hlimits.written number (by rw [integerKeysAfter, hnumber]; simp))
  cases hkind : argument.kind with
  | positional =>
    have hkey : integerKey? earlier argument = some (nextAfter earlier) := if_pos hkind
    simp [Item.ofArgument, hkind, hkey, hwritten _ hkey, nextAfter_cons_self, Except.mapError,
      writtenKey]
  | index =>
    obtain ⟨key, hkey, hindex⟩ := exists_index_of_sound hkind hfault
    have hexplicit : explicitIndex? argument = some (Decimal.value key.toList) := by
      rw [explicitIndex?, if_pos hkind, hkey, Option.filter_some, if_pos hindex, Option.map_some]
    have hinteger : integerKey? earlier argument = some (Decimal.value key.toList) := by
      rw [integerKey?, if_neg (by rw [hkind]; decide), hexplicit]
    have hvalue := Argument.indexValue_of_valid hkey hindex
      (hlimits.read argument List.mem_cons_self hkind key hkey hindex)
    simp [Item.ofArgument, hkind, hvalue, hwritten _ hinteger, hinteger, hexplicit, nextAfter_cons,
      Except.mapError, writtenKey]
  | literal =>
    obtain ⟨key, hkey, hnonempty⟩ := exists_key_of_sound (.inl hkind) hfault
    have hsource := Argument.keySource_of_literal hkind hkey hnonempty
    simp [Item.ofArgument, hkind, hsource, integerKey?, explicitIndex?, writtenKey, hkey]
  | computed =>
    obtain ⟨key, hkey, hnonempty⟩ := exists_key_of_sound (.inr hkind) hfault
    have hsource := Argument.keySource_of_computed hkind hkey hnonempty
    simp [Item.ofArgument, hkind, hsource, integerKey?, explicitIndex?, writtenKey, hkey]

/-! ## All arguments -/

theorem WithinLimits.tail {argument : Argument} {rest : List Argument}
    (hlimits : WithinLimits earlier (argument :: rest)) :
    WithinLimits ((integerKey? earlier argument).toList ++ earlier) rest where
  read := fun other hother ↦ hlimits.read other (List.mem_cons_of_mem argument hother)
  written := fun number hnumber ↦ hlimits.written number (List.mem_cons_of_mem _ hnumber)

/-- The first argument whose key does not suit its kind decides. -/
theorem itemsFrom_of_keyFault {cause : Malformed} {arguments : List Argument}
    (hlimits : WithinLimits earlier arguments)
    (hfault : arguments.findSome? keyFault? = some cause) :
    itemsFrom (nextAfter earlier) arguments = .error (.malformed cause) := by
  induction arguments generalizing earlier with
  | nil => cases hfault
  | cons argument rest ih =>
    rw [List.findSome?_cons] at hfault
    rw [itemsFrom]
    cases hargument : keyFault? argument with
    | some first =>
      rw [hargument] at hfault
      cases hfault
      rw [ofArgument_of_keyFault _ hargument, Outcome.error_bind]
    | none =>
      rw [hargument] at hfault
      rw [ofArgument_of_sound hargument hlimits, Outcome.ok_bind]
      simp only [ih hlimits.tail hfault, Outcome.error_bind]

def describedItems (earlier : List Nat) : List Argument → List Item
  | [] => []
  | argument :: rest =>
    ⟨writtenKey argument (integerKey? earlier argument), argument.value,
        argument.kind == .positional || explicitIndex? argument == some (nextAfter earlier)⟩ ::
      describedItems ((integerKey? earlier argument).toList ++ earlier) rest

/-- Where no key is wrong, the items are those described. -/
theorem itemsFrom_of_sound {arguments : List Argument} (hlimits : WithinLimits earlier arguments)
    (hfault : arguments.findSome? keyFault? = none) :
    itemsFrom (nextAfter earlier) arguments = .ok (describedItems earlier arguments) := by
  induction arguments generalizing earlier with
  | nil => rfl
  | cons argument rest ih =>
    rw [List.findSome?_cons] at hfault
    cases hargument : keyFault? argument with
    | some first =>
      rw [hargument] at hfault
      cases hfault
    | none =>
      rw [hargument] at hfault
      rw [itemsFrom, ofArgument_of_sound hargument hlimits, Outcome.ok_bind]
      simp only [ih hlimits.tail hfault, Outcome.ok_bind]
      rfl

/-- The values are taken over in their order. -/
theorem values_describedItems (arguments : List Argument) :
    (describedItems earlier arguments).map (·.value) = arguments.map (·.value) := by
  induction arguments generalizing earlier with
  | nil => rfl
  | cons argument rest ih => rw [describedItems, List.map_cons, List.map_cons, ih]

theorem length_describedItems (arguments : List Argument) :
    (describedItems earlier arguments).length = arguments.length := by
  rw [← List.length_map (·.value), values_describedItems, List.length_map]

/-- What is made of the items is made of the arguments and their keys. -/
theorem map_describedItems {β : Type} (f : String → String → β) (arguments : List Argument) :
    ((describedItems earlier arguments).map fun item ↦ f item.key item.value) =
      List.zipWith (fun argument key? ↦ f (writtenKey argument key?) argument.value)
        arguments (integerKeysAfter earlier arguments) := by
  induction arguments generalizing earlier with
  | nil => rfl
  | cons argument rest ih =>
    rw [describedItems, List.map_cons, integerKeysAfter, List.zipWith_cons_cons, ih]

/-- As long as all items are in sequence, the next free index is the place. The first item out of
sequence decides. -/
theorem all_inSequence_describedItems (arguments : List Argument) :
    (describedItems earlier arguments).all (·.inSequence) =
      isListFrom (nextAfter earlier) arguments := by
  induction arguments generalizing earlier with
  | nil => rfl
  | cons argument rest ih =>
    rw [describedItems, List.all_cons, isListFrom, List.zipIdx_cons, List.all_cons]
    dsimp only
    cases hsequence : argument.kind == .positional ||
        explicitIndex? argument == some (nextAfter earlier) with
    | false => rfl
    | true =>
      have hinteger : integerKey? earlier argument = some (nextAfter earlier) := by
        rw [Bool.or_eq_true, beq_iff_eq, beq_iff_eq] at hsequence
        rw [integerKey?]
        split
        · rfl
        · next hkind => exact hsequence.resolve_left hkind
      rw [Bool.true_and, Bool.true_and, ih, hinteger, Option.toList_some, List.singleton_append,
        nextAfter_cons_self, isListFrom]

/-- The first stray datum decides, then the first wrong key, and else all items are written. -/
theorem collection_eq_described {entries : List Entry}
    (hlimits : WithinLimits [] (entries.filterMap Entry.argument?)) :
    collection entries = describedLiteral entries := by
  unfold collection describedLiteral
  rw [Entry.toArguments_eq]
  cases hrefusal : entries.findSome? Entry.refusal? with
  | some fault => rfl
  | none =>
    rw [Outcome.ok_bind, ← nextAfter_nil]
    dsimp only
    cases hfault : (entries.filterMap Entry.argument?).findSome? keyFault? with
    | some cause => rw [itemsFrom_of_keyFault hlimits hfault, Outcome.error_bind]
    | none =>
      rw [itemsFrom_of_sound hlimits hfault, Outcome.ok_bind, Outcome.pure_eq_ok, literalOf,
        all_inSequence_describedItems]
      split
      · rw [listLiteral, values_describedItems]
      · rw [dictionaryLiteral, map_describedItems fun key value ↦ key ++ ": " ++ value]
        rfl

/-- The first of all that is handed over which is no argument decides, and else the entries do. -/
theorem collectionOf_eq (handed : List Handed) :
    collectionOf handed =
      (handed.findSome? Handed.refusal?).elim (collection (handed.filterMap Handed.entry?))
        .error := by
  rw [collectionOf, Handed.toArguments_eq]
  cases hrefusal : handed.findSome? Handed.refusal? with
  | some fault => rfl
  | none =>
    rw [Outcome.ok_bind, Option.elim_none, collection, collection, Entry.toArguments_map_argument,
      Entry.toArguments_eq, Handed.findSome?_refusal?_entries hrefusal]

/-- The literal that is written for entries is the one that they describe. In particular, a stray
datum among them makes the call malformed exactly if the first one can be shown. With pairs among
them whose keys are no texts the first of these or of the stray data decides. -/
theorem collection_eq_describedLiteral (entries : List Entry)
    (hlimits : WithinLimits [] (entries.filterMap Entry.argument?)) :
    collection entries = describedLiteral entries ∧
      (∀ datum, entries.findSome? Entry.stray? = some datum →
        ((∃ cause, collection entries = .error (.malformed cause)) ↔
          datum.val.isShowable = true)) ∧
      ∀ handed : List Handed, handed.filterMap Handed.entry? = entries →
        collectionOf handed =
          (handed.findSome? Handed.refusal?).elim (describedLiteral entries) .error := by
  have hdescribed := collection_eq_described hlimits
  refine ⟨hdescribed, fun datum hdatum ↦ ?_, fun handed hentries ↦ ?_⟩
  · have hrefusal : entries.findSome? Entry.refusal? = some datum.val.refusal := by
      rw [Entry.findSome?_refusal?, hdatum, Option.map_some]
    have hcollection : collection entries = .error datum.val.refusal := by
      rw [hdescribed, describedLiteral, hrefusal]
    rw [hcollection, ← Datum.exists_refusal_eq_malformed_iff]
    simp only [Except.error.injEq]
  · rw [collectionOf_eq, hentries, hdescribed]

/-- A lower index between others, an index with leading zeros and keys that are no integers. -/
def mixedEntries : List Entry :=
  [.pair none "a", .pair (some "05") "b", .argument (.positional "c"), .pair (some "k") "d",
    .argument (.computed "self.scope.x" "e"), .argument (.index "3" "f"), .pair (some "") "g"]

/-- The least integer that is too long to be written, in place of an argument. -/
def oversizedEntry : Entry := .datum ⟨.integer (.ofNat (10 ^ Decimal.digitLimit)), rfl⟩

/-- A number in the place of a key. -/
def mistypedPair : Handed := .mistypedPair ⟨.integer 5, rfl⟩ (.text "x")

def strayText : Entry := .datum ⟨.text "a", rfl⟩

theorem collection_eq_describedLiteral_mixed :
    WithinLimits [] (mixedEntries.filterMap Entry.argument?) ∧
      collection mixedEntries =
        .ok "\x7b0: a, 5: b, 6: c, 'k': d, self.scope.x: e, 3: f, 7: g\x7d" ∧
      collection [oversizedEntry] = .error (.numeral .writing) ∧
      collectionOf [mistypedPair, .entry strayText] = .error (.keyNotText "int") := by
  have hlimits : WithinLimits [] (mixedEntries.filterMap Entry.argument?) := by
    constructor
    · intro argument hargument _ key hkey _
      have hshort : ∀ argument ∈ mixedEntries.filterMap Entry.argument?,
          ∀ key ∈ argument.key, key.toList.length ≤ 12 := by decide
      exact Nat.le_trans (hshort argument hargument key hkey) (by decide)
    · intro number hnumber
      have hsmall : ∀ key? ∈ integerKeysAfter [] (mixedEntries.filterMap Entry.argument?),
          ∀ number ∈ key?, number < 10 := by decide
      exact Nat.lt_of_lt_of_le (hsmall _ hnumber number rfl) (Nat.le_self_pow (by decide) 10)
  have hoversized : WithinLimits [] ([oversizedEntry].filterMap Entry.argument?) := ⟨nofun, nofun⟩
  have hstray : WithinLimits [] ([strayText].filterMap Entry.argument?) := ⟨nofun, nofun⟩
  have hhanded := (collection_eq_describedLiteral [strayText] hstray).2.2
  refine ⟨hlimits, (collection_eq_describedLiteral mixedEntries hlimits).1.trans (by rfl), ?_,
    hhanded [mistypedPair, .entry strayText] rfl⟩
  rw [(collection_eq_describedLiteral [oversizedEntry] hoversized).1,
    ← Datum.refusal_of_oversized (Nat.lt_irrefl _)]
  rfl

end TemplateCalls.Expression
