import TemplateCalls.Proofs.CallFaults

/-!
# Indices that are written out

A positional entry of a literal may as well give the index that it is given. Whatever positional
entries are replaced in this way, the literal stays the same, a list or a dictionary as it was. Two
runs over the entries are compared, one with the replacements and one without: in both, the next
free index is one more than all integer keys before, so an index that is written out is the one that
would be given, leaves the same index free after it, and never puts its item out of sequence.
-/

namespace TemplateCalls.Expression

open TemplateCalls.Outcome

/-! ## Replacements -/

/-- An entry with an index written out, if it is chosen and stands for a positional argument. -/
def withIndex (isChosen : Bool) (number : Nat) (entry : Entry) : Except Decimal.Overflow Entry :=
  match entry.argument? with
  | some argument =>
    if isChosen = true ∧ argument.kind = .positional then
      (Argument.indexOfInt number argument.value).map .argument
    else .ok entry
  | none => .ok entry

/-- Entries from a place on, after others with given integer keys. At the places that are chosen the
index that the entry is given is written out. -/
def writeOutFrom (chosen : Nat → Bool) (place : Nat) (earlier : List Nat) :
    List Entry → Except Decimal.Overflow (List Entry)
  | [] => .ok []
  | entry :: rest => do
    let first ← withIndex (chosen place) (nextAfter earlier) entry
    let key? := entry.argument?.bind (integerKey? earlier)
    return first :: (← writeOutFrom chosen (place + 1) (key?.toList ++ earlier) rest)

/-- The entries of a literal with the indices written out that those at chosen places are given. -/
def writeOut (chosen : Nat → Bool) (entries : List Entry) :
    Except Decimal.Overflow (List Entry) :=
  writeOutFrom chosen 0 [] entries

/-! ## One step -/

section step

variable {next : Nat} {argument : Argument}

/-- The argument that gives the next free index has the same item as a positional one, and the same
index is free after it. -/
theorem ofArgument_index_digits (hkind : argument.kind = .positional)
    (hnext : next < 10 ^ Decimal.digitLimit) :
    Item.ofArgument next (.index (.ofList (Decimal.digits next)) argument.value) =
      Item.ofArgument next argument := by
  have hindex : (Argument.index (.ofList (Decimal.digits next)) argument.value).kind = .index := rfl
  have hmax : max next (next + 1) = next + 1 := Nat.max_eq_right (Nat.le_succ next)
  simp only [Item.ofArgument, hkind, hindex, Argument.indexValue_index_digits hnext,
    Decimal.write_eq_ok hnext, Except.mapError, ok_bind, beq_self_eq_true, hmax]
  rfl

theorem lt_of_ofArgument_eq_ok {result : Item × Nat} (hkind : argument.kind = .positional)
    (hresult : Item.ofArgument next argument = .ok result) : next < 10 ^ Decimal.digitLimit := by
  by_contra hnext
  simp [Item.ofArgument, hkind, Decimal.write_eq_error hnext, Except.mapError] at hresult

/-- An entry that has an item can have its index written out, and then has the same item. -/
theorem exists_withIndex (isChosen : Bool) {entry : Entry} {result : Item × Nat}
    (hargument : entry.argument? = some argument)
    (hresult : Item.ofArgument next argument = .ok result) :
    ∃ other written, withIndex isChosen next entry = .ok other ∧ other.argument? = some written ∧
      Item.ofArgument next written = .ok result := by
  rw [withIndex, hargument]
  dsimp only
  split
  · next hreplaced =>
    have hkind := hreplaced.2
    have hnext := lt_of_ofArgument_eq_ok hkind hresult
    let written := Argument.index (.ofList (Decimal.digits next)) argument.value
    refine ⟨.argument written, written, ?_, rfl, ?_⟩
    · rw [Argument.indexOfInt_eq_ok hnext]
      rfl
    · rw [ofArgument_index_digits hkind hnext, hresult]
  · exact ⟨entry, argument, rfl, hargument, hresult⟩

/-- After an argument the next free index is one more than all integer keys so far. -/
theorem eq_nextAfter_of_ofArgument {earlier : List Nat} {item : Item}
    (hitem : Item.ofArgument (nextAfter earlier) argument = .ok (item, next)) :
    next = nextAfter ((integerKey? earlier argument).toList ++ earlier) := by
  cases hfault : faultOf? earlier argument with
  | some fault =>
    rw [ofArgument_of_faultOf hfault] at hitem
    cases hitem
  | none =>
    rw [ofArgument_of_faultOf_eq_none hfault] at hitem
    exact (Prod.mk.inj (Except.ok.inj hitem)).2.symm

end step

/-! ## All entries -/

/-- The two runs stay together: entries that have items have the same ones with indices written out,
wherever they begin. -/
theorem exists_writeOutFrom (chosen : Nat → Bool) (place : Nat) {entries : List Entry}
    {arguments : List Argument} {earlier : List Nat} {items : List Item}
    (harguments : Entry.toArguments entries = .ok arguments)
    (hitems : itemsFrom (nextAfter earlier) arguments = .ok items) :
    ∃ others written, writeOutFrom chosen place earlier entries = .ok others ∧
      Entry.toArguments others = .ok written ∧
      itemsFrom (nextAfter earlier) written = .ok items := by
  induction entries generalizing arguments place earlier items with
  | nil =>
    cases harguments
    exact ⟨[], [], rfl, rfl, hitems⟩
  | cons entry rest ih =>
    obtain ⟨argument, more, hargument, hmore, rfl⟩ :=
      Entry.toArguments_cons_eq_ok_iff.mp harguments
    obtain ⟨⟨item, next⟩, hitem, hbind⟩ := bind_eq_ok_iff.mp hitems
    obtain ⟨moreItems, hmoreItems, hresult⟩ := bind_eq_ok_iff.mp hbind
    obtain rfl := eq_nextAfter_of_ofArgument hitem
    obtain ⟨others, written, hothers, hwritten, hsame⟩ := ih (place + 1) hmore hmoreItems
    obtain ⟨other, first, hother, hfirst, hsameItem⟩ :=
      exists_withIndex (chosen place) hargument hitem
    refine ⟨other :: others, first :: written, ?_, ?_, ?_⟩
    · rw [writeOutFrom, hother, ok_bind, hargument]
      dsimp only [Option.bind_some]
      rw [hothers, ok_bind]
      rfl
    · exact Entry.toArguments_cons_eq_ok_iff.mpr ⟨first, written, hfirst, hwritten, rfl⟩
    · rw [itemsFrom, hsameItem, ok_bind]
      dsimp only
      rw [hsame]
      exact hresult

/-- Where a literal is written, its automatic indices can be written out at any places, and the
literal stays the same. -/
theorem exists_collection_writeOut (chosen : Nat → Bool) {entries : List Entry} {code : String}
    (hcode : collection entries = .ok code) :
    ∃ others, writeOut chosen entries = .ok others ∧ collection others = .ok code := by
  obtain ⟨arguments, harguments, hbind⟩ := bind_eq_ok_iff.mp hcode
  obtain ⟨items, hitems, hliteral⟩ := bind_eq_ok_iff.mp hbind
  rw [← nextAfter_nil] at hitems
  obtain ⟨others, written, hothers, hwritten, hsame⟩ :=
    exists_writeOutFrom chosen 0 harguments hitems
  refine ⟨others, hothers, ?_⟩
  rw [collection, hwritten, ok_bind, ← nextAfter_nil, hsame]
  exact hliteral

/-- Where entries have a literal, those with any indices written out that positional ones are given
have the same literal; and the same holds of a call of the literal. -/
theorem collection_written_out (entries : List Entry) (chosen : Nat → Bool) :
    (∀ code, collection entries = .ok code →
      ∃ others, writeOut chosen entries = .ok others ∧ collection others = .ok code) ∧
    ∀ (context : Context) (reference : Reference) (code : String),
      reference.resolve = .ok Plugin.array → compileCall context reference entries = .ok code →
        ∃ others, writeOut chosen entries = .ok others ∧
          compileCall context reference others = .ok code := by
  refine ⟨fun code ↦ exists_collection_writeOut chosen, ?_⟩
  intro context reference code hresolve hcode
  rw [compileCall_of_array hresolve] at hcode
  obtain ⟨others, hothers, hsame⟩ := exists_collection_writeOut chosen hcode
  exact ⟨others, hothers, by rw [compileCall_of_array hresolve, hsame]⟩

/-- Positional entries before and after a higher and a lower index; and a list. -/
theorem collection_written_out_partly :
    let chosen := fun place ↦ place == 2 || place == 6
    let others : List Entry := [.pair none "a", .pair (some "05") "b", .argument (.index "6" "c"),
      .pair (some "k") "d", .argument (.computed "self.scope.x" "e"), .argument (.index "3" "f"),
      .argument (.index "7" "g")]
    let code := "\x7b0: a, 5: b, 6: c, 'k': d, self.scope.x: e, 3: f, 7: g\x7d"
    collection mixedEntries = .ok code ∧ writeOut chosen mixedEntries = .ok others ∧
      collection others = .ok code ∧
      compileCall {} (.named "array") [.pair none "x", .argument (.index "1" "y")] =
        .ok "[x, y]" := by
  intro chosen others code
  have hcode : collection mixedEntries = .ok code := by rfl
  obtain ⟨written, hwritten, hsame⟩ := (collection_written_out mixedEntries chosen).1 code hcode
  obtain ⟨pair, hpair, hlist⟩ :=
    (collection_written_out [.pair none "x", .pair none "y"] (· == 1)).2 {} (.named "array")
      "[x, y]" rfl rfl
  cases hwritten
  cases hpair
  exact ⟨hcode, rfl, hsame, hlist⟩

end TemplateCalls.Expression
