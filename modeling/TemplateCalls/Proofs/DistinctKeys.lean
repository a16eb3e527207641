import TemplateCalls.Proofs.CollectionReading
import TemplateCalls.Proofs.QuotedReading

/-!
# Keys that are written alike

Two entries of a literal have keys that are written alike only if they have the same key: the same
name, or the same integer. An integer is never written like a name, and no two names have the same
quoted text. An integer comes back only where a caller gives it, because an index that is given
automatically lies above all integer keys before it, in whatever order these came and however often.

Computed keys are not covered, as their values are known only when a template is rendered.
-/

namespace TemplateCalls

/-! ## Names and numerals -/

theorem CodeText.ofString_injective : Function.Injective CodeText.ofString := by
  intro first second heq
  have hcharacter : Function.Injective Text.CodePoint.character := by
    intro character other hsame
    exact Text.CodePoint.character.inj hsame
  exact String.toList_inj.mp (hcharacter.list_map heq)

/-- A quoted text can be read back, so it is the text of one name only. -/
theorem Text.quote_injective : Function.Injective Text.quote := by
  intro first second heq
  have hlist : Quoted.encode (CodeText.ofString first) =
      Quoted.encode (CodeText.ofString second) := String.ofList_inj.mp heq
  have hdecode := congrArg Quoted.decode? hlist
  rw [Quoted.decode?_encode, Quoted.decode?_encode] at hdecode
  exact CodeText.ofString_injective (Option.some.inj hdecode)

/-- A numeral has digits only, and a quoted text begins with a mark. -/
theorem Text.ofList_digits_ne_quote (number : Nat) (text : String) :
    String.ofList (Decimal.digits number) ≠ Text.quote text := by
  intro heq
  have hlist : Decimal.digits number = Quoted.encode (CodeText.ofString text) :=
    String.ofList_inj.mp heq
  obtain ⟨mark, hmark⟩ := Quoted.exists_mark_eq (CodeText.ofString text)
  have hmem : mark.character ∈ Decimal.digits number := by
    rw [hlist, Quoted.encode, hmark]
    exact List.mem_cons_self
  have hdigit := Decimal.isDigit_of_mem_digits hmem
  cases mark <;> revert hdigit <;> decide

namespace Expression

variable {earlier : List Nat} {arguments : List Argument} {argument : Argument} {number : Nat}

/-! ## Integers that come back -/

/-- The next index is above all integer keys before it. -/
theorem lt_nextAfter_of_mem (hmem : number ∈ earlier) : number < nextAfter earlier := by
  induction earlier with
  | nil => cases hmem
  | cons first rest ih =>
    rw [nextAfter_cons]
    rcases List.mem_cons.mp hmem with rfl | hrest
    · exact Nat.lt_of_lt_of_le (Nat.lt_succ_self number) (Nat.le_max_right ..)
    · exact Nat.lt_of_lt_of_le (ih hrest) (Nat.le_max_left ..)

/-- An argument whose integer key is a key before it gives this key itself. -/
theorem isIndex_of_integerKey?_mem (hmem : number ∈ earlier)
    (hkey : integerKey? earlier argument = some number) : argument.kind = .index := by
  unfold integerKey? at hkey
  split at hkey
  · have hlt := lt_nextAfter_of_mem hmem
    rw [Option.some.inj hkey] at hlt
    exact absurd hlt (Nat.lt_irrefl number)
  · unfold explicitIndex? at hkey
    split at hkey
    · next hkind => exact hkind
    · cases hkey

/-- Only an explicit index repeats an earlier integer key. -/
theorem isIndex_of_mem {place : Nat} (hmem : number ∈ earlier)
    (hkey : (integerKeysAfter earlier arguments)[place]? = some (some number))
    (hargument : arguments[place]? = some argument) : argument.kind = .index := by
  induction arguments generalizing earlier place with
  | nil => cases hargument
  | cons first rest ih =>
    cases place with
    | zero =>
      cases hargument
      exact isIndex_of_integerKey?_mem hmem (Option.some.inj hkey)
    | succ place => exact ih (List.mem_append_right _ hmem) hkey hargument

/-- Of two arguments with the same integer key the later one gives it. -/
theorem isIndex_of_repeated {place other : Nat} (hlt : place < other)
    (hkey : (integerKeysAfter earlier arguments)[place]? = some (some number))
    (hother : (integerKeysAfter earlier arguments)[other]? = some (some number))
    (hargument : arguments[other]? = some argument) : argument.kind = .index := by
  induction arguments generalizing earlier place other with
  | nil => cases hargument
  | cons first rest ih =>
    obtain ⟨other, rfl⟩ := Nat.exists_eq_add_one_of_ne_zero (Nat.ne_zero_of_lt hlt)
    cases place with
    | zero =>
      have hfirst : integerKey? earlier first = some number := Option.some.inj hkey
      have hmem : number ∈ (integerKey? earlier first).toList ++ earlier := by
        rw [hfirst]
        exact List.mem_cons_self
      exact isIndex_of_mem hmem hother hargument
    | succ place => exact ih (Nat.lt_of_succ_lt_succ hlt) hkey hother hargument

/-! ## Two written keys -/

def HaveSameName (first second : Argument) : Prop :=
  first.kind = .literal ∧ second.kind = .literal ∧ first.key = second.key

/-- A name is no integer key. -/
theorem kind_ne_literal_of_integerKey? (hkey : integerKey? earlier argument = some number) :
    argument.kind ≠ .literal := by
  intro hkind
  simp [integerKey?, explicitIndex?, hkind] at hkey

/-- An argument without an integer key has a name, if its key is neither at fault nor computed. -/
theorem isLiteral_of_integerKey?_eq_none (hsound : keyFault? argument = none)
    (hkind : argument.kind ≠ .computed) (hkey : integerKey? earlier argument = none) :
    argument.kind = .literal ∧ ∃ name, argument.key = some name := by
  cases hcase : argument.kind with
  | positional => simp [integerKey?, hcase] at hkey
  | index =>
    obtain ⟨key, hgiven, hindex⟩ := exists_index_of_sound hcase hsound
    simp [integerKey?, explicitIndex?, hcase, hgiven, Option.filter_some, hindex] at hkey
  | literal =>
    obtain ⟨name, hname, _⟩ := exists_key_of_sound (.inl hcase) hsound
    exact ⟨rfl, name, hname⟩
  | computed => exact absurd hcase hkind

theorem writtenKey_of_literal {name : String} (hkind : argument.kind = .literal)
    (hname : argument.key = some name) : writtenKey argument none = Text.quote name := by
  rw [writtenKey, if_pos hkind, hname, Option.getD_some]

/-- Keys are written alike exactly if they are the same name or the same integer. -/
theorem writtenKey_eq_iff {first second : Argument} {before others : List Nat}
    (hfirst : keyFault? first = none ∧ first.kind ≠ .computed)
    (hsecond : keyFault? second = none ∧ second.kind ≠ .computed) :
    writtenKey first (integerKey? before first) = writtenKey second (integerKey? others second) ↔
      HaveSameName first second ∨
        ∃ number, integerKey? before first = some number ∧
          integerKey? others second = some number := by
  cases hkey : integerKey? before first with
  | some number =>
    have hnotName : ¬HaveSameName first second :=
      fun hsame ↦ kind_ne_literal_of_integerKey? hkey hsame.1
    cases hother : integerKey? others second with
    | some other =>
      simp only [writtenKey, String.ofList_inj, Decimal.digits_injective.eq_iff, hnotName,
        false_or, Option.some.injEq, exists_eq_left', eq_comm]
    | none =>
      obtain ⟨hkind, name, hname⟩ := isLiteral_of_integerKey?_eq_none hsecond.1 hsecond.2 hother
      rw [writtenKey_of_literal hkind hname, writtenKey]
      simp only [Text.ofList_digits_ne_quote, hnotName, reduceCtorEq, and_false, exists_false,
        or_self]
  | none =>
    obtain ⟨hkind, name, hname⟩ := isLiteral_of_integerKey?_eq_none hfirst.1 hfirst.2 hkey
    cases hother : integerKey? others second with
    | some other =>
      have hnotName : ¬HaveSameName first second :=
        fun hsame ↦ kind_ne_literal_of_integerKey? hother hsame.2.1
      rw [writtenKey_of_literal hkind hname, writtenKey]
      simp only [(Text.ofList_digits_ne_quote other name).symm, hnotName, reduceCtorEq, false_and,
        exists_false, or_self]
    | none =>
      obtain ⟨hkind', name', hname'⟩ :=
        isLiteral_of_integerKey?_eq_none hsecond.1 hsecond.2 hother
      rw [writtenKey_of_literal hkind hname, writtenKey_of_literal hkind' hname',
        Text.quote_injective.eq_iff]
      simp only [HaveSameName, hkind, hkind', hname, hname', Option.some.injEq, true_and,
        reduceCtorEq, false_and, exists_false, or_false]

/-! ## The keys of a literal -/

def HaveSameInteger (arguments : List Argument) (place other : Nat) : Prop :=
  ∃ number, (integerKeys arguments)[place]? = some (some number) ∧
    (integerKeys arguments)[other]? = some (some number)

/-- The items of a literal show the integer keys of their arguments, and otherwise keys that are
written alike only if they are the same. An integer that comes back is given by its argument. -/
structure KeysApart (arguments : List Argument) (items : List Item) : Prop where
  integers : ∀ (place number : Nat), (integerKeys arguments)[place]? = some (some number) →
    (items.map (·.key))[place]? = some (.ofList (Decimal.digits number))
  alike : ∀ (place other : Nat) (first second : Argument), place < other →
    arguments[place]? = some first → arguments[other]? = some second →
      ∃ key otherKey, (items.map (·.key))[place]? = some key ∧
        (items.map (·.key))[other]? = some otherKey ∧
        (key = otherKey ↔ HaveSameName first second ∨ HaveSameInteger arguments place other)
  given : ∀ (place other : Nat) (second : Argument), place < other →
    arguments[other]? = some second → HaveSameInteger arguments place other →
      second.kind = .index

theorem exists_integerKey? (earlier : List Nat) {place : Nat}
    (hargument : arguments[place]? = some argument) :
    ∃ before,
      (integerKeysAfter earlier arguments)[place]? = some (integerKey? before argument) := by
  induction arguments generalizing earlier place with
  | nil => cases hargument
  | cons first rest ih =>
    cases place with
    | zero =>
      cases hargument
      exact ⟨earlier, rfl⟩
    | succ place => exact ih _ hargument

theorem getElem?_of_integerKeysAfter {place : Nat} {key? : Option Nat}
    (hkey : (integerKeysAfter earlier arguments)[place]? = some key?) :
    ∃ argument, arguments[place]? = some argument := by
  induction arguments generalizing earlier place with
  | nil => cases hkey
  | cons first rest ih =>
    cases place with
    | zero => exact ⟨first, rfl⟩
    | succ place => exact ih hkey

/-- The key of an item by the key that its argument is assigned. -/
theorem getElem?_keys {place : Nat} {key? : Option Nat}
    (hargument : arguments[place]? = some argument)
    (hkey : (integerKeysAfter earlier arguments)[place]? = some key?) :
    ((describedItems earlier arguments).map (·.key))[place]? = some (writtenKey argument key?) := by
  rw [map_describedItems fun key _ ↦ key, List.getElem?_zipWith, hargument, hkey]

/-- The keys that are described for sound arguments are apart. -/
theorem keysApart_describedItems
    (hsound : ∀ argument ∈ arguments, keyFault? argument = none ∧ argument.kind ≠ .computed) :
    KeysApart arguments (describedItems [] arguments) where
  integers place number hkey := by
    obtain ⟨argument, hargument⟩ := getElem?_of_integerKeysAfter hkey
    exact getElem?_keys hargument hkey
  alike place other first second _ hfirst hsecond := by
    obtain ⟨before, hkey⟩ := exists_integerKey? [] hfirst
    obtain ⟨others, hother⟩ := exists_integerKey? [] hsecond
    have halike : writtenKey first (integerKey? before first) =
        writtenKey second (integerKey? others second) ↔ _ :=
      writtenKey_eq_iff (hsound first (List.mem_of_getElem? hfirst))
        (hsound second (List.mem_of_getElem? hsecond))
    refine ⟨_, _, getElem?_keys hfirst hkey, getElem?_keys hsecond hother, halike.trans ?_⟩
    rw [HaveSameInteger, integerKeys, hkey, hother]
    simp only [Option.some.injEq]
  given place other second hlt hsecond := by
    rintro ⟨number, hkey, hother⟩
    exact isIndex_of_repeated hlt hkey hother hsecond

/-- Without a fault, every key suits its kind. -/
theorem keyFault?_of_firstFault?_eq_none (hnone : firstFault? earlier arguments = none) :
    ∀ argument ∈ arguments, keyFault? argument = none := by
  induction arguments generalizing earlier with
  | nil => exact List.forall_mem_nil _
  | cons first rest ih =>
    rw [firstFault?, Option.or_eq_none_iff, faultOf?, Option.or_eq_none_iff,
      Option.map_eq_none_iff] at hnone
    exact List.forall_mem_cons.mpr ⟨hnone.1.1, ih hnone.2⟩

/-- The keys of a literal collide only where its entries have the same name or the same integer. In
particular an index that is given automatically is none of the integer keys before it. -/
theorem collection_keys_apart {entries : List Entry} {code : String}
    (hcode : collection entries = .ok code)
    (hkinds : ∀ argument ∈ entries.filterMap Entry.argument?, argument.kind ≠ .computed) :
    ∃ (arguments : List Argument) (items : List Item),
      entries.map Entry.argument? = arguments.map some ∧
      itemsFrom 0 arguments = .ok items ∧ code = literalOf items ∧ KeysApart arguments items := by
  obtain ⟨hrefusal, hfault, hliteral⟩ := collection_eq_ok_iff.mp hcode
  let arguments := entries.filterMap Entry.argument?
  have hitems : itemsFrom 0 arguments = .ok (describedItems [] arguments) := by
    rw [← nextAfter_nil, itemsFrom_eq, hfault]
  have hsound : ∀ argument ∈ arguments, keyFault? argument = none ∧ argument.kind ≠ .computed :=
    fun argument hargument ↦
      ⟨keyFault?_of_firstFault?_eq_none hfault argument hargument, hkinds argument hargument⟩
  exact ⟨arguments, describedItems [] arguments, Entry.map_argument? hrefusal, hitems, hliteral,
    keysApart_describedItems hsound⟩

/-- A name of digits, and an integer that is lower than one before it and comes back later. -/
def collidingEntries : List Entry :=
  [.pair none "a", .pair (some "05") "b", .argument (.literal "5" "c"), .pair (some "1") "d",
    .pair none "e", .pair (some "5") "f", .pair (some "k") "g", .pair (some "k") "h"]

theorem collection_keys_apart_colliding :
    let code := "\x7b0: a, 5: b, '5': c, 1: d, 6: e, 5: f, 'k': g, 'k': h\x7d"
    collection collidingEntries = .ok code ∧
      (∀ argument ∈ collidingEntries.filterMap Entry.argument?, argument.kind ≠ .computed) ∧
      ∃ (arguments : List Argument) (items : List Item),
        collidingEntries.map Entry.argument? = arguments.map some ∧
        itemsFrom 0 arguments = .ok items ∧ code = literalOf items ∧
        KeysApart arguments items := by
  intro code
  have hcode : collection collidingEntries = .ok code := by rfl
  have hkinds : ∀ argument ∈ collidingEntries.filterMap Entry.argument?,
      argument.kind ≠ .computed := by decide
  exact ⟨hcode, hkinds, collection_keys_apart hcode hkinds⟩

end Expression

end TemplateCalls
