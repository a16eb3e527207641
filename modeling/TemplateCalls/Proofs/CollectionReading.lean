import TemplateCalls.Proofs.LiteralFaults
import TemplateCalls.Proofs.SelfContainedCode

/-!
# Reading a literal back

What stands between the outer brackets of a literal is cut at the commas that separate, and an item
of a dictionary at the first colon that separates. The reader knows nothing of the entries that the
literal was written from. Still it finds each of them in its place, with its key as it was written,
as long as no value and no computed key has a separator of its own. Literal keys may hold any
characters, brackets, marks and separators included.
-/

namespace TemplateCalls

open Scanner

namespace Expression

/-! ## The reader -/

/-- The values that a literal shows, with their keys as source texts if it is a dictionary. -/
inductive Contents where
  | list (values : List String)
  | dictionary (items : List (String × String))
  deriving DecidableEq, Repr

namespace Contents

def size : Contents → Nat
  | list values => values.length
  | dictionary items => items.length

/-- The texts between the commas that separate, each of which must come with one space. -/
def segments? (text : List Char) : Option (List (List Char)) :=
  match _h : cut? ',' start text with
  | none => some [text]
  | some (segment, ' ' :: rest) => (segments? rest).map (segment :: ·)
  | some _ => none
termination_by text.length
decreasing_by
  have hlt := length_lt_of_cut? _h
  rw [List.length_cons] at hlt
  omega

/-- The key before the first colon that separates, and the value after it and one space. -/
def item? (segment : List Char) : Option (String × String) :=
  match cut? ':' start segment with
  | some (key, ' ' :: value) => some (.ofList key, .ofList value)
  | _ => none

def between? (opening closing : Char) (text : List Char) : Option (List Char) := do
  let rest ← text.dropPrefix? [opening]
  rest.dropSuffix? [closing]

def list? (text : List Char) : Option Contents := do
  let segments ← segments? (← between? '[' ']' text)
  return list (segments.map .ofList)

def dictionary? (text : List Char) : Option Contents := do
  let segments ← segments? (← between? '\x7b' '\x7d' text)
  return dictionary (← segments.mapM item?)

def read? (code : String) : Option Contents :=
  (list? code.toList).or (dictionary? code.toList)

end Contents

end Expression

/-- An argument that no separator cuts into: not a comma in its value and, if its key is computed,
neither a comma nor a colon in its key. -/
structure Argument.IsSeparable (argument : Argument) : Prop where
  value : IsWhole ',' argument.value
  key : argument.kind = .computed → ∀ key, argument.key = some key →
    IsWhole ',' key ∧ IsWhole ':' key

instance (argument : Argument) : Decidable argument.IsSeparable :=
  decidable_of_iff
    (IsWhole ',' argument.value ∧
      (argument.kind = .computed → ∀ key ∈ argument.key, IsWhole ',' key ∧ IsWhole ':' key))
    ⟨fun h ↦ ⟨h.1, fun hkind key hkey ↦ h.2 hkind key hkey⟩,
      fun h ↦ ⟨h.value, fun hkind key hkey ↦ h.key hkind key hkey⟩⟩

namespace Expression

/-! ## Items -/

structure Item.IsSeparable (item : Item) : Prop where
  value : IsWhole ',' item.value
  key : IsWhole ',' item.key ∧ IsWhole ':' item.key

theorem isSeparable_of_shows {item : Item} {argument : Argument}
    (hargument : argument.IsSeparable) (hshows : item.Shows argument) : item.IsSeparable where
  value := hshows.value ▸ hargument.value
  key := hshows.key_of (fun number ↦ ⟨isWhole_digits rfl number, isWhole_digits rfl number⟩)
    (fun text ↦ ⟨isWhole_text_quote rfl text, isWhole_text_quote rfl text⟩) hargument.key

/-- A pair of key and value is in one piece if both of them are. -/
theorem isWhole_item {key value : String} (hkey : IsWhole ',' key) (hvalue : IsWhole ',' value) :
    IsWhole ',' (key ++ ": " ++ value) where
  selfContained :=
    isSelfContained_append hkey.selfContained ⟨rfl, rfl⟩ hvalue.selfContained
  uncut := by
    have hcolon : step start ':' = some start := rfl
    have hspace : step start ' ' = some start := rfl
    have hrest : cut? ',' start (": ".toList ++ value.toList) = none := by
      change cut? ',' start (':' :: ' ' :: value.toList) = none
      rw [cut?_cons _ rfl hcolon, cut?_cons _ rfl hspace, hvalue.uncut]
      rfl
    rw [String.toList_append, String.toList_append, List.append_assoc, hkey.cut?_append rfl,
      hrest, Option.map_none]

namespace Contents

/-- The first colon that separates is the one behind the key. -/
theorem item?_eq_some {key : String} (hkey : IsWhole ':' key) (value : String) :
    item? (key ++ ": " ++ value).toList = some (key, value) := by
  have hsegment : (key ++ ": " ++ value).toList = key.toList ++ ':' :: ' ' :: value.toList := by
    rw [String.toList_append, String.toList_append, List.append_assoc]
    rfl
  rw [item?, hsegment, hkey.cut?_append_separator rfl]
  simp only [String.ofList_toList]

theorem mapM_item? {items : List Item} (hitems : ∀ item ∈ items, item.IsSeparable) :
    (items.map fun item ↦ (item.key ++ ": " ++ item.value).toList).mapM item? =
      some (items.map fun item ↦ (item.key, item.value)) := by
  induction items with
  | nil => rfl
  | cons item rest ih =>
    rw [List.forall_mem_cons] at hitems
    rw [List.map_cons, List.mapM_cons, item?_eq_some hitems.1.key.2, ih hitems.2]
    rfl

/-! ## Segments -/

theorem segments?_of_uncut {text : List Char} (hcut : cut? ',' start text = none) :
    segments? text = some [text] := by
  rw [segments?]
  split
  · rfl
  · next hfound =>
    rw [hcut] at hfound
    cases hfound
  · next hfound =>
    rw [hcut] at hfound
    cases hfound

/-- A text with a separator outside all brackets has the part in front of it and the segments
behind. -/
theorem segments?_of_cut? {text segment rest : List Char}
    (hcut : cut? ',' start text = some (segment, ' ' :: rest)) :
    segments? text = (segments? rest).map (segment :: ·) := by
  rw [segments?]
  split
  · next hfound =>
    rw [hcut] at hfound
    cases hfound
  · next hfound =>
    rw [hcut] at hfound
    cases hfound
    rfl
  · next hother hfound =>
    rw [hcut] at hfound
    exact absurd (Option.some.inj hfound).symm (hother segment rest)

/-- Texts that no comma cuts into are the segments of what they are joined to. -/
theorem segments?_intercalate {texts : List String} (hne : texts ≠ [])
    (htexts : ∀ text ∈ texts, IsWhole ',' text) :
    segments? (", ".intercalate texts).toList = some (texts.map String.toList) := by
  induction texts with
  | nil => exact absurd rfl hne
  | cons first rest ih =>
    rw [List.forall_mem_cons] at htexts
    cases rest with
    | nil =>
      rw [String.intercalate_singleton]
      exact segments?_of_uncut htexts.1.uncut
    | cons second rest =>
      have hjoined : (", ".intercalate (first :: second :: rest)).toList =
          first.toList ++ ',' :: ' ' :: (", ".intercalate (second :: rest)).toList := by
        rw [String.intercalate_cons_cons, String.toList_append, String.toList_append,
          List.append_assoc]
        rfl
      have hcut : cut? ',' start (", ".intercalate (first :: second :: rest)).toList =
          some (first.toList, ' ' :: (", ".intercalate (second :: rest)).toList) := by
        rw [hjoined, htexts.1.cut?_append_separator rfl]
      calc
        segments? (", ".intercalate (first :: second :: rest)).toList =
            (segments? (", ".intercalate (second :: rest)).toList).map (first.toList :: ·) :=
          segments?_of_cut? hcut
        _ = some ((first :: second :: rest).map String.toList) := by
          rw [ih (List.cons_ne_nil _ _) htexts.2]
          rfl

/-! ## Literals -/

theorem between?_eq_some (opening closing : Char) (text : List Char) :
    between? opening closing (opening :: (text ++ [closing])) = some text := by
  rw [between?, ← List.singleton_append, List.dropPrefix?_append_of_beq _ BEq.rfl,
    Option.bind_eq_bind, Option.bind_some, dropSuffix?_append]

/-- A written list reads back as its values. -/
theorem read?_listLiteral {items : List Item} (hne : items ≠ [])
    (hitems : ∀ item ∈ items, item.IsSeparable) :
    read? (listLiteral items) = some (list (items.map (·.value))) := by
  have hvalues : ∀ text ∈ items.map (·.value), IsWhole ',' text := by
    intro text htext
    obtain ⟨item, hitem, rfl⟩ := List.mem_map.mp htext
    exact (hitems item hitem).value
  have hcode : (listLiteral items).toList =
      '[' :: ((", ".intercalate (items.map (·.value))).toList ++ [']']) := by
    rw [listLiteral, String.toList_append, String.toList_append, List.append_assoc]
    rfl
  have hlist : list? (listLiteral items).toList = some (list (items.map (·.value))) := by
    have hsegments := segments?_intercalate (List.map_eq_nil_iff.not.mpr hne) hvalues
    rw [hcode, list?, between?_eq_some]
    simp only [Option.bind_eq_bind, Option.bind_some, hsegments, List.map_map]
    simp [Function.comp_def]
  rw [read?, hlist, Option.some_or]

/-- A written dictionary reads back as its keys and values. -/
theorem read?_dictionaryLiteral {items : List Item} (hne : items ≠ [])
    (hitems : ∀ item ∈ items, item.IsSeparable) :
    read? (dictionaryLiteral items) =
      some (dictionary (items.map fun item ↦ (item.key, item.value))) := by
  have htexts : ∀ text ∈ items.map (fun item ↦ item.key ++ ": " ++ item.value),
      IsWhole ',' text := by
    intro text htext
    obtain ⟨item, hitem, rfl⟩ := List.mem_map.mp htext
    exact isWhole_item (hitems item hitem).key.1 (hitems item hitem).value
  have hcode : (dictionaryLiteral items).toList = '\x7b' ::
      ((", ".intercalate (items.map fun item ↦ item.key ++ ": " ++ item.value)).toList ++
        ['\x7d']) := by
    rw [dictionaryLiteral, String.toList_append, String.toList_append, List.append_assoc]
    rfl
  have hlist : list? (dictionaryLiteral items).toList = none := by
    rw [hcode]
    rfl
  have hdictionary : dictionary? (dictionaryLiteral items).toList =
      some (dictionary (items.map fun item ↦ (item.key, item.value))) := by
    have hsegments := segments?_intercalate (List.map_eq_nil_iff.not.mpr hne) htexts
    rw [List.map_map] at hsegments
    rw [hcode, dictionary?, between?_eq_some]
    simp only [Option.bind_eq_bind, Option.bind_some, hsegments]
    have hmapM := mapM_item? hitems
    simp only [Function.comp_def, hmapM]
    rfl
  rw [read?, hlist, Option.none_or, hdictionary]

theorem read?_literalOf {items : List Item} (hne : items ≠ [])
    (hitems : ∀ item ∈ items, item.IsSeparable) :
    read? (literalOf items) =
      some (if items.all (·.inSequence) then list (items.map (·.value))
        else dictionary (items.map fun item ↦ (item.key, item.value))) := by
  unfold literalOf
  split
  · exact read?_listLiteral hne hitems
  · exact read?_dictionaryLiteral hne hitems

/-- What the literal of arguments is to show: the values in their order or, unless it is a list,
every value with its key as it is written. -/
def described (arguments : List Argument) : Contents :=
  if isListFrom 0 arguments then list (arguments.map (·.value))
  else dictionary (List.zipWith
    (fun argument key? ↦ (writtenKey argument key?, argument.value)) arguments
    (integerKeys arguments))

/-- The contents that arguments describe are those of the items described for them. -/
theorem described_eq (arguments : List Argument) :
    described arguments =
      if (describedItems [] arguments).all (·.inSequence) then
        list ((describedItems [] arguments).map (·.value))
      else dictionary ((describedItems [] arguments).map fun item ↦ (item.key, item.value)) := by
  rw [described, all_inSequence_describedItems, nextAfter_nil, values_describedItems,
    map_describedItems Prod.mk, integerKeys]

/-- Every argument has a place of its own in the contents. -/
theorem size_described (arguments : List Argument) :
    (described arguments).size = arguments.length := by
  rw [described_eq]
  split
  · rw [size, List.length_map, length_describedItems]
  · rw [size, List.length_map, length_describedItems]

end Contents

/-- Entries that are written stand for arguments, all of them. -/
theorem length_filterMap_argument? {entries : List Entry}
    (hrefusal : entries.findSome? Entry.refusal? = none) :
    (entries.filterMap Entry.argument?).length = entries.length := by
  rw [← List.length_map some, ← Entry.map_argument? hrefusal, List.length_map]

/-- A literal reads as its entries, no more and no fewer. -/
theorem collection_contents {entries : List Entry} {code : String} (hne : entries ≠ [])
    (hcode : collection entries = .ok code)
    (hentries : ∀ argument ∈ entries.filterMap Entry.argument?, argument.IsSeparable) :
    Contents.read? code = some (.described (entries.filterMap Entry.argument?)) ∧
      (Contents.described (entries.filterMap Entry.argument?)).size = entries.length := by
  obtain ⟨arguments, harguments, hliteral⟩ := Outcome.bind_eq_ok_iff.mp hcode
  obtain ⟨items, hitems, hresult⟩ := Outcome.bind_eq_ok_iff.mp hliteral
  cases hresult
  rw [Entry.toArguments_eq] at harguments
  split at harguments
  · cases harguments
  · next hrefusal =>
    cases harguments
    have hlength := length_filterMap_argument? hrefusal
    have hseparable : ∀ item ∈ items, item.IsSeparable := by
      intro item hitem
      obtain ⟨argument, hargument, hshows⟩ := exists_shows_of_itemsFrom hitems item hitem
      exact isSeparable_of_shows (hentries argument hargument) hshows
    have hdescribed : items = describedItems [] (entries.filterMap Entry.argument?) := by
      rw [← nextAfter_nil, itemsFrom_eq] at hitems
      split at hitems
      · cases hitems
      · exact (Except.ok.inj hitems).symm
    have hitemsNe : items ≠ [] := by
      rw [← List.length_pos_iff, hdescribed, length_describedItems, hlength, List.length_pos_iff]
      exact hne
    refine ⟨?_, by rw [Contents.size_described, hlength]⟩
    rw [Contents.read?_literalOf hitemsNe hseparable, Contents.described_eq, hdescribed]

/-- Separators and brackets in quoted texts, in a literal key and within brackets. -/
def crowdedEntries : List Entry :=
  [.pair (some "a, b: [\x7b'\"\n") "f(x, \x7b1: 2\x7d)",
    .argument (.computed "self.scope.k[1:2]" "'c, d: )'"), .pair none "[1, (2, 3)]",
    .pair (some "7") "\"]\" # e\n"]

def crowdedCode : String :=
  "\x7b'a, b: [\x7b\\'\"\\n': f(x, \x7b1: 2\x7d), self.scope.k[1:2]: 'c, d: )', 0: [1, (2, 3)], "
    ++ "7: \"]\" # e\n\x7d"

theorem collection_contents_crowded :
    crowdedEntries ≠ [] ∧ collection crowdedEntries = .ok crowdedCode ∧
      (∀ argument ∈ crowdedEntries.filterMap Entry.argument?, argument.IsSeparable) ∧
      Contents.read? crowdedCode = some (.dictionary
        [(Text.quote "a, b: [\x7b'\"\n", "f(x, \x7b1: 2\x7d)"),
          ("self.scope.k[1:2]", "'c, d: )'"), ("0", "[1, (2, 3)]"), ("7", "\"]\" # e\n")]) := by
  have hne : crowdedEntries ≠ [] := List.cons_ne_nil _ _
  have hcode : collection crowdedEntries = .ok crowdedCode := by rfl
  have hentries : ∀ argument ∈ crowdedEntries.filterMap Entry.argument?, argument.IsSeparable := by
    decide +kernel
  exact ⟨hne, hcode, hentries, (collection_contents hne hcode hentries).1⟩

end Expression

end TemplateCalls
