import TemplateCalls.Expression
import TemplateCalls.Proofs.Entries
import TemplateCalls.Proofs.Keys
import TemplateCalls.Proofs.QuotedScan

/-!
# Self-contained code

The expressions that the generators write are self-contained if their operands are. A literal key
may be any text, because it is quoted; a computed key stands as it is and must be self-contained
itself.
-/

namespace TemplateCalls

open Scanner

/-! ## Code between operands -/

/-- Code that leads from plain code to plain code and changes the open brackets, whatever
self-contained text stands before it. -/
def Leads (before : List Bracket) (code : String) (after : List Bracket) : Prop :=
  startsPlain code.toList = true ∧ scan ⟨.code, before⟩ code.toList = some ⟨.code, after⟩

instance (before : List Bracket) (code : String) (after : List Bracket) :
    Decidable (Leads before code after) :=
  inferInstanceAs (Decidable (_ ∧ _))

theorem Leads.scan_append {before after : List Bracket} {code : String}
    (hcode : Leads before code after) (rest : List Char) :
    scan ⟨.code, before⟩ (code.toList ++ rest) = scan ⟨.code, after⟩ rest :=
  scan_append_of_eq_some hcode.2 rest

theorem Leads.scan_operand_append {before after : List Bracket} {code operand : String}
    (hcode : Leads before code after) (hoperand : isSelfContained operand = true)
    (rest : List Char) :
    scan ⟨.code, before⟩ (operand.toList ++ (code.toList ++ rest)) =
      scan ⟨.code, after⟩ rest := by
  rw [scan_append_of_isSelfContained hoperand (startsPlain_append hcode.1 rest), hcode.scan_append]

/-- The last operand and the code after it. -/
theorem Leads.scan_operand {before after : List Bracket} {code operand : String}
    (hcode : Leads before code after) (hoperand : isSelfContained operand = true) :
    scan ⟨.code, before⟩ (operand.toList ++ code.toList) = some ⟨.code, after⟩ := by
  rw [scan_append_of_isSelfContained hoperand hcode.1, hcode.2]

theorem leads_comma (brackets : List Bracket) : Leads brackets ", " brackets := ⟨rfl, rfl⟩

theorem leads_close (outer : List Bracket) : Leads (.round :: outer) ")" outer := ⟨rfl, rfl⟩

theorem isSelfContained_of_scan {text : String} (hscan : scan start text.toList = some start) :
    isSelfContained text = true := by
  rw [isSelfContained, hscan]
  rfl

/-! ## Joined texts -/

/-- Self-contained parts on both sides of a separator are self-contained together. -/
theorem isSelfContained_append {first separator second : String}
    (hfirst : isSelfContained first = true) (hseparator : Leads [] separator [])
    (hsecond : isSelfContained second = true) :
    isSelfContained (first ++ separator ++ second) = true := by
  obtain ⟨state, hscan, hstate⟩ := isSelfContained_iff.mp hsecond
  refine isSelfContained_iff.mpr ⟨state, ?_, hstate⟩
  rw [String.toList_append, String.toList_append, List.append_assoc, start,
    hseparator.scan_operand_append hfirst]
  exact hscan

theorem isSelfContained_intercalate {texts : List String}
    (htexts : ∀ text ∈ texts, isSelfContained text = true) :
    isSelfContained (", ".intercalate texts) = true := by
  induction texts with
  | nil => rfl
  | cons first rest ih =>
    rw [List.forall_mem_cons] at htexts
    cases rest with
    | nil => simpa using htexts.1
    | cons second rest =>
      rw [String.intercalate_cons_cons]
      exact isSelfContained_append htexts.1 (leads_comma []) (ih htexts.2)

/-- Brackets around self-contained code are self-contained. -/
theorem isSelfContained_between {opening content closing : String} {brackets : List Bracket}
    (hopening : Leads [] opening brackets) (hcontent : isSelfContained content = true)
    (hclosing : Leads brackets closing []) :
    isSelfContained (opening ++ content ++ closing) = true := by
  apply isSelfContained_of_scan
  rw [String.toList_append, String.toList_append, List.append_assoc, start, hopening.scan_append,
    hclosing.scan_operand hcontent]

namespace Expression

/-! ## Expressions over operands -/

theorem isSelfContained_fallback {value replacement : String}
    (hvalue : isSelfContained value = true) (hreplacement : isSelfContained replacement = true) :
    isSelfContained (fallback value replacement) = true := by
  have hopening : Leads [] "(_tmp if (_tmp := (" [.round, .round, .round] := by decide +kernel
  have hmiddle : Leads [.round, .round, .round] ")) is not None and _tmp != '' else ("
      [.round, .round] := by decide +kernel
  have hclosing : Leads [.round, .round] "))" [] := by decide +kernel
  apply isSelfContained_of_scan
  unfold fallback
  simp only [String.toList_append, List.append_assoc]
  rw [start, hopening.scan_append, hmiddle.scan_operand_append hvalue,
    hclosing.scan_operand hreplacement]

theorem isSelfContained_textOf (charset : CodeText) {value : String}
    (hvalue : isSelfContained value = true) : isSelfContained (textOf charset value) = true := by
  have hcharset := isSelfContained_codeText_quote charset
  have hopening : Leads [] "('' if (_tmp := (" [.round, .round, .round] := by decide +kernel
  have hmiddle : Leads [.round, .round, .round] ")) is None else _tmp.decode("
      [.round, .round] := by decide +kernel
  have hclosing : Leads [.round, .round]
      ", 'replace') if isinstance(_tmp, bytes) else str(_tmp))" [] := by decide +kernel
  apply isSelfContained_of_scan
  unfold textOf
  simp only [String.toList_append, List.append_assoc]
  rw [start, hopening.scan_append, hmiddle.scan_operand_append hvalue,
    hclosing.scan_operand hcharset]

theorem isSelfContained_verbatimReplacement {replacement : String}
    (hreplacement : isSelfContained replacement = true) :
    isSelfContained (verbatimReplacement replacement) = true := by
  have hopening : Leads [] "str(" [.round] := by decide +kernel
  have hmiddle : Leads [.round] ").replace(" [.round] := by decide +kernel
  apply isSelfContained_of_scan
  unfold verbatimReplacement
  simp only [String.toList_append, List.append_assoc]
  rw [start, hopening.scan_append, hmiddle.scan_operand_append hreplacement,
    (leads_comma _).scan_operand_append (isSelfContained_text_quote _),
    (leads_close []).scan_operand (isSelfContained_text_quote _)]

theorem isSelfContained_collapseWhitespace (context : Context) {value replacement : String}
    (hvalue : isSelfContained value = true) (hreplacement : isSelfContained replacement = true) :
    isSelfContained (collapseWhitespace context value replacement) = true := by
  have hopening : Leads [] "re.sub(" [.round] := by decide +kernel
  have hflags : Leads [.round] ", flags=" [.round] := by decide +kernel
  have hmode : isSelfContained (if context.isUtf8 then "re.UNICODE" else "re.ASCII") = true := by
    cases context.isUtf8 <;> decide +kernel
  apply isSelfContained_of_scan
  unfold collapseWhitespace
  simp only [String.toList_append, List.append_assoc]
  rw [start, hopening.scan_append,
    (leads_comma _).scan_operand_append (isSelfContained_text_quote _),
    (leads_comma _).scan_operand_append (isSelfContained_verbatimReplacement hreplacement),
    hflags.scan_operand_append (isSelfContained_textOf _ hvalue),
    (leads_close []).scan_operand hmode]

end Expression

/-! ## Literals of entries -/

/-- An argument whose code is self-contained: its value and, if it is computed, its key. -/
structure Argument.IsSelfContained (argument : Argument) : Prop where
  value : isSelfContained argument.value = true
  key : argument.kind = .computed → ∀ key, argument.key = some key → isSelfContained key = true

instance (argument : Argument) : Decidable argument.IsSelfContained :=
  decidable_of_iff
    (isSelfContained argument.value = true ∧
      (argument.kind = .computed → ∀ key ∈ argument.key, isSelfContained key = true))
    ⟨fun h ↦ ⟨h.1, fun hkind key hkey ↦ h.2 hkind key hkey⟩,
      fun h ↦ ⟨h.value, fun hkind key hkey ↦ h.key hkind key hkey⟩⟩

namespace Expression

/-- How an item shows an argument: with its value, and with an index, a quoted text or the computed
key of the argument. -/
structure Item.Shows (item : Item) (argument : Argument) : Prop where
  value : item.value = argument.value
  key : (∃ number, item.key = .ofList (Decimal.digits number)) ∨
    (∃ text, item.key = Text.quote text) ∨
    argument.kind = .computed ∧ argument.key = some item.key

theorem eq_digits_of_write {number : Nat} {source : String}
    (hwrite : (Decimal.write number).mapError Fault.numeral = .ok source) :
    source = .ofList (Decimal.digits number) := by
  rw [Outcome.mapError_eq_ok_iff, Decimal.write] at hwrite
  split at hwrite
  · exact (Except.ok.inj hwrite).symm
  · cases hwrite

/-- An item shows the argument that it is made of. -/
theorem shows_of_ofArgument {next after : Nat} {argument : Argument} {item : Item}
    (hitem : Item.ofArgument next argument = .ok (item, after)) : item.Shows argument := by
  rcases argument with ⟨kind, key?, value⟩
  cases kind with
  | positional =>
    obtain ⟨key, hkey, hresult⟩ := Outcome.bind_eq_ok_iff.mp hitem
    cases hresult
    exact ⟨rfl, .inl ⟨next, eq_digits_of_write hkey⟩⟩
  | index =>
    obtain ⟨number, _, hnumber⟩ := Outcome.bind_eq_ok_iff.mp hitem
    obtain ⟨key, hkey, hresult⟩ := Outcome.bind_eq_ok_iff.mp hnumber
    cases hresult
    exact ⟨rfl, .inl ⟨number, eq_digits_of_write hkey⟩⟩
  | literal =>
    obtain ⟨source, hsource, hresult⟩ := Outcome.bind_eq_ok_iff.mp hitem
    cases hresult
    obtain ⟨key, _, hquote⟩ := Argument.key_of_keySource hsource (.inl rfl)
    exact ⟨rfl, .inr (.inl ⟨key, hquote⟩)⟩
  | computed =>
    obtain ⟨source, hsource, hresult⟩ := Outcome.bind_eq_ok_iff.mp hitem
    cases hresult
    obtain ⟨key, hkey, hsame⟩ := Argument.key_of_keySource hsource (.inr rfl)
    exact ⟨rfl, .inr (.inr ⟨rfl, hkey.trans (congrArg some hsame.symm)⟩)⟩

theorem exists_shows_of_itemsFrom {next : Nat} {arguments : List Argument} {items : List Item}
    (hitems : itemsFrom next arguments = .ok items) :
    ∀ item ∈ items, ∃ argument ∈ arguments, item.Shows argument := by
  induction arguments generalizing next items with
  | nil =>
    cases hitems
    simp
  | cons argument rest ih =>
    obtain ⟨⟨item, after⟩, hitem, hrest⟩ := Outcome.bind_eq_ok_iff.mp hitems
    obtain ⟨others, hothers, hresult⟩ := Outcome.bind_eq_ok_iff.mp hrest
    cases hresult
    refine List.forall_mem_cons.mpr
      ⟨⟨argument, List.mem_cons_self, shows_of_ofArgument hitem⟩, fun other hother ↦ ?_⟩
    obtain ⟨shown, hshown, hshows⟩ := ih hothers other hother
    exact ⟨shown, List.mem_cons_of_mem argument hshown, hshows⟩

/-- What holds of all numerals and quoted texts, and of the key if it is computed, holds of the key
of the item. -/
theorem Item.Shows.key_of {item : Item} {argument : Argument} (hshows : item.Shows argument)
    {Holds : String → Prop} (hdigits : ∀ number, Holds (.ofList (Decimal.digits number)))
    (hquote : ∀ text, Holds (Text.quote text))
    (hcomputed : argument.kind = .computed → ∀ key, argument.key = some key → Holds key) :
    Holds item.key := by
  rcases hshows.key with ⟨number, hkey⟩ | ⟨text, hkey⟩ | ⟨hkind, hkey⟩
  · exact hkey ▸ hdigits number
  · exact hkey ▸ hquote text
  · exact hcomputed hkind _ hkey

theorem isSelfContained_of_shows {item : Item} {argument : Argument}
    (hargument : argument.IsSelfContained) (hshows : item.Shows argument) :
    isSelfContained item.key = true ∧ isSelfContained item.value = true :=
  ⟨hshows.key_of isSelfContained_digits isSelfContained_text_quote hargument.key,
    hshows.value ▸ hargument.value⟩

theorem isSelfContained_literalOf {items : List Item}
    (hitems : ∀ item ∈ items,
      isSelfContained item.key = true ∧ isSelfContained item.value = true) :
    isSelfContained (literalOf items) = true := by
  have hsquare : Leads [] "[" [.square] ∧ Leads [.square] "]" [] := by decide
  have hcurly : Leads [] "\x7b" [.curly] ∧ Leads [.curly] "\x7d" [] := by decide
  have hcolon : Leads [] ": " [] := by decide
  unfold literalOf
  split
  · apply isSelfContained_between hsquare.1 ?_ hsquare.2
    apply isSelfContained_intercalate
    intro text htext
    obtain ⟨item, hitem, rfl⟩ := List.mem_map.mp htext
    exact (hitems item hitem).2
  · apply isSelfContained_between hcurly.1 ?_ hcurly.2
    apply isSelfContained_intercalate
    intro text htext
    obtain ⟨item, hitem, rfl⟩ := List.mem_map.mp htext
    exact isSelfContained_append (hitems item hitem).1 hcolon (hitems item hitem).2

/-- A literal of self-contained arguments is self-contained. -/
theorem isSelfContained_of_collection {entries : List Entry} {code : String}
    (hentries : ∀ argument ∈ entries.filterMap Entry.argument?, argument.IsSelfContained)
    (hcode : collection entries = .ok code) : isSelfContained code = true := by
  obtain ⟨arguments, harguments, hliteral⟩ := Outcome.bind_eq_ok_iff.mp hcode
  obtain ⟨items, hitems, hresult⟩ := Outcome.bind_eq_ok_iff.mp hliteral
  cases hresult
  rw [Entry.toArguments_eq] at harguments
  split at harguments
  · cases harguments
  · cases harguments
    refine isSelfContained_literalOf fun item hitem ↦ ?_
    obtain ⟨argument, hargument, hshows⟩ := exists_shows_of_itemsFrom hitems item hitem
    exact isSelfContained_of_shows (hentries argument hargument) hshows

end Expression

end TemplateCalls
