import TemplateCalls.Proofs.DecodableRuns
import TemplateCalls.Proofs.QuotedReading

/-!
# Runs of texts

A module to which only texts are added has one line for each text that is not empty, in their order,
and in it the literal of the text. The lines are told apart by line ends alone and the literals are
read by the rules of the language; nothing else is known of the module. Lines end nowhere but where
they are joined, because neither a literal nor an identifier holds a character that ends a line.
-/

namespace TemplateCalls

open Text.Quoted (IsOneLine decode? decode?_encode isOneLine_encode lineEnds)

theorem Text.isOneLine_of_isIdentifier {name : List Char} (hname : isIdentifier name = true) :
    IsOneLine name := by
  have hother : lineEnds.any isIdentifierPart = false := by decide +kernel
  intro character hmem hlineEnd
  exact List.any_eq_false.mp hother character hlineEnd (isIdentifierPart_of_mem hname hmem)

namespace RenderModule

/-! ## The pieces of a run -/

/-- Texts are never refused, and each adds its literal unless it is empty. -/
theorem run_texts (target : RenderModule) (texts : List String) :
    (target.run (texts.map .text)).2 =
      { target with
        pieces := target.pieces ++ (texts.filter (!·.isEmpty)).map Text.quote } := by
  have hneeded : (texts.map Step.text).flatMap (·.needed target.context) = [] := by
    rw [List.flatMap_map]
    exact List.flatMap_eq_nil_iff.mpr fun _ _ ↦ rfl
  have hpieces : (texts.map Step.text).filterMap (·.piece? target.context) =
      (texts.filter (!·.isEmpty)).map Text.quote := by
    rw [List.filterMap_map, ← List.filterMap_eq_map, List.filterMap_filter]
    congr 1
    funext text
    rw [Function.comp_apply, Step.piece?]
    cases text.isEmpty <;> rfl
  rw [run_snd, hneeded, hpieces]
  rfl

/-! ## The lines of the source -/

theorem isOneLine_appendLine {piece : String} (hpiece : IsOneLine piece.toList) :
    IsOneLine (appendLine piece).toList := by
  have hbefore : IsOneLine "    _out.append(str(".toList := by decide +kernel
  have hafter : IsOneLine "))".toList := by decide +kernel
  unfold appendLine
  rw [String.toList_append, String.toList_append]
  exact (hbefore.append hpiece).append hafter

theorem lines_of_imports_eq_nil {target : RenderModule} (himports : target.imports = []) :
    target.lines = ("def " ++ target.functionName ++ "(self):") :: "    _out = []" ::
      (target.pieces.map appendLine ++ ["    return ''.join(_out)", ""]) := by
  rw [lines, importLines, himports]
  rfl

theorem isOneLine_of_mem_lines {target : RenderModule}
    (hname : IsOneLine target.functionName.toList) (himports : target.imports = [])
    (hpieces : ∀ piece ∈ target.pieces, IsOneLine piece.toList) :
    ∀ line ∈ target.lines, IsOneLine line.toList := by
  have hheader : IsOneLine ("def " ++ target.functionName ++ "(self):").toList := by
    have hbefore : IsOneLine "def ".toList := by decide +kernel
    have hafter : IsOneLine "(self):".toList := by decide +kernel
    rw [String.toList_append, String.toList_append]
    exact (hbefore.append hname).append hafter
  have hopening : IsOneLine "    _out = []".toList := by decide +kernel
  have hlast : ∀ line ∈ ["    return ''.join(_out)", ""], IsOneLine line.toList := by
    decide +kernel
  have happended : ∀ line ∈ target.pieces.map appendLine, IsOneLine line.toList := by
    intro line hline
    obtain ⟨piece, hpiece, rfl⟩ := List.mem_map.mp hline
    exact isOneLine_appendLine (hpieces piece hpiece)
  rw [lines_of_imports_eq_nil himports, List.forall_mem_cons, List.forall_mem_cons,
    List.forall_mem_append]
  exact ⟨hheader, hopening, happended, hlast⟩

/-- Lines in which no line ends are split off one by one. -/
theorem splitOn_source {target : RenderModule}
    (hlines : ∀ line ∈ target.lines, IsOneLine line.toList) :
    target.source.toList.splitOn '\n' = target.lines.map String.toList := by
  have hne : target.lines ≠ [] := by simp [lines]
  rw [source, String.toList_intercalate]
  refine List.splitOn_intercalate '\n' (fun text htext ↦ ?_) (List.map_eq_nil_iff.not.mpr hne)
  obtain ⟨line, hline, rfl⟩ := List.mem_map.mp htext
  exact (hlines line hline).lineFeed_not_mem

theorem mem_toList_intercalate {lines : List String} {character : Char}
    (hmem : character ∈ ("\n".intercalate lines).toList) :
    character = '\n' ∨ ∃ line ∈ lines, character ∈ line.toList := by
  induction lines with
  | nil => cases hmem
  | cons first rest ih =>
    by_cases hrest : rest = []
    · rw [hrest, String.intercalate_singleton] at hmem
      exact .inr ⟨first, List.mem_cons_self, hmem⟩
    · rw [Reading.toList_join_cons first hrest, List.mem_append, List.mem_cons] at hmem
      rcases hmem with hfirst | hbreak | hothers
      · exact .inr ⟨first, List.mem_cons_self, hfirst⟩
      · exact .inl hbreak
      · rcases ih hothers with hbreak | ⟨line, hline, hcharacter⟩
        · exact .inl hbreak
        · exact .inr ⟨line, List.mem_cons_of_mem first hline, hcharacter⟩

/-! ## The lines that append -/

/-- The expression that a line appends to the output, if it is such a line. -/
def appended? (line : List Char) : Option (List Char) := do
  let rest ← line.dropPrefix? "    _out.append(str(".toList
  rest.dropSuffix? "))".toList

/-- The expressions that the lines of a source append, in their order. -/
def appendedIn (source : String) : List (List Char) :=
  (source.toList.splitOn '\n').filterMap appended?

theorem appended?_appendLine (piece : String) :
    appended? (appendLine piece).toList = some piece.toList := by
  have hline : (appendLine piece).toList =
      "    _out.append(str(".toList ++ (piece.toList ++ "))".toList) := by
    unfold appendLine
    rw [String.toList_append, String.toList_append, List.append_assoc]
  rw [hline, appended?, List.dropPrefix?_append_of_beq _ BEq.rfl, Option.bind_eq_bind,
    Option.bind_some, Scanner.dropSuffix?_append]

theorem appended?_header (functionName : String) :
    appended? ("def " ++ functionName ++ "(self):").toList = none := by
  rw [String.toList_append, String.toList_append]
  rfl

/-- The lines that append are those of the pieces, in their order. -/
theorem appendedIn_source {target : RenderModule} (himports : target.imports = [])
    (hlines : ∀ line ∈ target.lines, IsOneLine line.toList) :
    appendedIn target.source = target.pieces.map String.toList := by
  have hopening : appended? "    _out = []".toList = none := by decide +kernel
  have hlast : (["    return ''.join(_out)", ""].map String.toList).filterMap appended? = [] := by
    decide +kernel
  have happended : ((target.pieces.map appendLine).map String.toList).filterMap appended? =
      target.pieces.map String.toList := by
    rw [List.map_map, List.filterMap_map, ← List.filterMap_eq_map]
    exact List.filterMap_congr fun piece _ ↦ appended?_appendLine piece
  rw [appendedIn, splitOn_source hlines, lines_of_imports_eq_nil himports, List.map_cons,
    List.map_cons, List.map_append, List.filterMap_cons_none (appended?_header _),
    List.filterMap_cons_none hopening, List.filterMap_append, happended, hlast, List.append_nil]

/-! ## What is read from the source -/

theorem mapM_decode?_quote (texts : List String) :
    ((texts.map Text.quote).map String.toList).mapM decode? =
      some (texts.map CodeText.ofString) := by
  have hdecode : ∀ text, decode? (Text.quote text).toList = some (CodeText.ofString text) := by
    intro text
    rw [Text.quote, CodeText.quote, String.toList_ofList, decode?_encode]
  simp only [List.mapM_map, Function.comp_def, hdecode]
  exact List.mapM_pure

theorem flatten_ofString (texts : List String) :
    ((texts.filter (!·.isEmpty)).map CodeText.ofString).flatten =
      CodeText.ofString (String.join texts) := by
  induction texts with
  | nil => rfl
  | cons text rest ih =>
    have hjoin : CodeText.ofString (String.join (text :: rest)) =
        CodeText.ofString text ++ CodeText.ofString (String.join rest) := by
      unfold CodeText.ofString CodeText.ofChars
      rw [String.join_cons, String.toList_append, List.map_append]
    rw [hjoin]
    cases hempty : text.isEmpty with
    | true =>
      rw [List.filter_cons_of_neg (by simp [hempty]), ih, String.isEmpty_iff.mp hempty]
      rfl
    | false =>
      rw [List.filter_cons_of_pos (by simp [hempty]), List.map_cons, List.flatten_cons, ih]

/-- Texts come back from the source as they were, the empty ones left out: one line has the literal
of each, and no line ends but between the lines. -/
theorem texts_survive {context : Context} {functionName : String}
    (hname : Text.isIdentifier functionName.toList = true) (texts : List String) :
    let source := (run { context, functionName } (texts.map .text)).2.source
    (appendedIn source).mapM decode? =
        some ((texts.filter (!·.isEmpty)).map CodeText.ofString) ∧
      (∀ literal ∈ appendedIn source, IsOneLine literal) ∧
      (∀ character ∈ source.toList, character ∈ lineEnds → character = '\n') ∧
      ((appendedIn source).mapM decode?).map List.flatten =
        some (CodeText.ofString (String.join texts)) := by
  intro source
  let built : RenderModule :=
    { context, functionName, pieces := (texts.filter (!·.isEmpty)).map Text.quote }
  have hsource : source = built.source := congrArg RenderModule.source (run_texts _ texts)
  have hname : IsOneLine built.functionName.toList := Text.isOneLine_of_isIdentifier hname
  have hpieces : ∀ piece ∈ built.pieces, IsOneLine piece.toList := by
    intro piece hpiece
    obtain ⟨text, _, rfl⟩ := List.mem_map.mp hpiece
    rw [Text.quote, CodeText.quote, String.toList_ofList]
    exact isOneLine_encode _
  have hlines := isOneLine_of_mem_lines hname rfl hpieces
  have happended : appendedIn source = built.pieces.map String.toList := by
    rw [hsource, appendedIn_source rfl hlines]
  have hread : (appendedIn source).mapM decode? =
      some ((texts.filter (!·.isEmpty)).map CodeText.ofString) := by
    rw [happended]
    exact mapM_decode?_quote _
  refine ⟨hread, ?_, ?_, ?_⟩
  · rw [happended]
    intro literal hliteral
    obtain ⟨piece, hpiece, rfl⟩ := List.mem_map.mp hliteral
    exact hpieces piece hpiece
  · rw [hsource]
    intro character hmem hlineEnd
    rcases mem_toList_intercalate hmem with hbreak | ⟨line, hline, hcharacter⟩
    · exact hbreak
    · exact absurd hlineEnd (hlines line hline character hcharacter)
  · rw [hread, Option.map_some, flatten_ofString]

/-- Both marks, a backslash at the end, a digit after an unprintable character, ends of lines, and
an empty text. -/
theorem texts_survive_awkward :
    let texts := ["it's \"so\"\\", "", "\x011", "\u2028\r'", "😀\x7f"]
    let source := (run { context := {} } (texts.map .text)).2.source
    Text.isIdentifier "render".toList = true ∧
      (appendedIn source).mapM decode? =
        some (["it's \"so\"\\", "\x011", "\u2028\r'", "😀\x7f"].map CodeText.ofString) := by
  intro texts source
  have hname : Text.isIdentifier "render".toList = true := by decide
  exact ⟨hname, (texts_survive hname texts).1⟩

end RenderModule

end TemplateCalls
