import TemplateCalls.Proofs.Separation
import TemplateCalls.RenderModule

/-!
# Reading the source of a render module

The source of a module is read back line by line up to the body of its function, and from there
statement by statement. Where the expression of a statement ends is left to the scanner alone: it is
the text up to the round bracket that closes the one before it. If all pieces are self-contained,
the reader finds the name of the function, the imports and the pieces of the module.
-/

namespace TemplateCalls

open Scanner

/-! ## The reader -/

/-- What the source of a module says. -/
structure Reading where
  functionName : String
  imports : List String
  pieces : List String
  deriving DecidableEq, Repr

namespace Reading

/-- The text up to the round bracket that closes one before the text, and what follows the bracket.
-/
def operand? (state : State) : List Char → Option (List Char × List Char)
  | [] => none
  | character :: rest =>
    if state.isPlain && character == ')' then some ([], rest)
    else do
      let next ← step state character
      let (operand, after) ← operand? next rest
      return (character :: operand, after)

/-- The expression of the first statement, and what follows the statement. -/
def statement? (text : List Char) : Option (String × List Char) := do
  let rest ← text.dropPrefix? "    _out.append(str(".toList
  let (operand, after) ← operand? start rest
  let others ← after.dropPrefix? ")\n".toList
  return (.ofList operand, others)

/-- The operand ends where the text is cut at the bracket that closes it. -/
theorem operand?_eq_cut? (state : State) (text : List Char) :
    operand? state text = cut? ')' state text := by
  induction text generalizing state with
  | nil => rfl
  | cons character rest ih => simp only [operand?, cut?, ih]

theorem length_lt_of_statement? {text rest : List Char} {piece : String}
    (hstatement : statement? text = some (piece, rest)) : rest.length < text.length := by
  obtain ⟨opened, hopened, hopen⟩ := Option.bind_eq_some_iff.mp hstatement
  obtain ⟨⟨operand, after⟩, hoperand, hclose⟩ := Option.bind_eq_some_iff.mp hopen
  obtain ⟨others, hothers, heq⟩ := Option.bind_eq_some_iff.mp hclose
  cases heq
  obtain ⟨opening, htext, _⟩ := List.dropPrefix?_eq_some_iff.mp hopened
  obtain ⟨closing, hafter, _⟩ := List.dropPrefix?_eq_some_iff.mp hothers
  rw [operand?_eq_cut?] at hoperand
  have hlt := length_lt_of_cut? hoperand
  rw [hafter, List.length_append] at hlt
  rw [htext, List.length_append]
  omega

def statements? (text : List Char) : Option (List String) :=
  match _h : statement? text with
  | some (piece, rest) => (statements? rest).map (piece :: ·)
  | none => if text = "    return ''.join(_out)\n".toList then some [] else none
termination_by text.length
decreasing_by exact length_lt_of_statement? _h

def functionName? (line : List Char) : Option String := do
  let rest ← line.dropPrefix? "def ".toList
  guard (rest.dropWhile (· != '(') = "(self):".toList)
  return .ofList (rest.takeWhile (· != '('))

def isImport (line : List Char) : Bool := "import ".toList.isPrefixOf line

/-- Reads the lines of the function, after the imports. -/
def function? (imports : List String) : List (List Char) → Option Reading
  | header :: opening :: body => do
    guard (opening = "    _out = []".toList)
    let functionName ← functionName? header
    let pieces ← statements? (['\n'].intercalate body)
    return { functionName, imports, pieces }
  | _ => none

/-- Reads a source. Two blank lines keep the function apart from its imports. -/
def read? (source : String) : Option Reading := do
  let lines := source.toList.splitOn '\n'
  let imports := (lines.takeWhile isImport).map fun line ↦ String.ofList (line.drop 7)
  let others := lines.dropWhile isImport
  function? imports (← if imports.isEmpty then some others else others.dropPrefix? [[], []])

/-! ## Statements -/

/-- The line of a piece is read back as the piece, whatever follows. -/
theorem statement?_appendLine {piece : String} (hpiece : isSelfContained piece = true)
    (rest : List Char) :
    statement? ((RenderModule.appendLine piece).toList ++ '\n' :: rest) = some (piece, rest) := by
  have hline : (RenderModule.appendLine piece).toList ++ '\n' :: rest =
      "    _out.append(str(".toList ++ (piece.toList ++ ')' :: (")\n".toList ++ rest)) := by
    unfold RenderModule.appendLine
    simp only [String.toList_append, List.append_assoc]
    rfl
  rw [hline, statement?, List.dropPrefix?_append_of_beq _ BEq.rfl]
  simp only [Option.bind_eq_bind, Option.bind_some, operand?_eq_cut?,
    (isWhole_closing hpiece).cut?_append_separator rfl, List.dropPrefix?_append_of_beq _ BEq.rfl,
    String.ofList_toList]
  rfl

theorem statements?_of_statement? {text rest : List Char} {piece : String}
    (hstatement : statement? text = some (piece, rest)) :
    statements? text = (statements? rest).map (piece :: ·) := by
  rw [statements?]
  split
  · next hfound =>
    rw [hstatement] at hfound
    cases hfound
    rfl
  · next hfound =>
    rw [hstatement] at hfound
    cases hfound

/-! ## Lines -/

theorem toList_join_cons (line : String) {rest : List String} (hrest : rest ≠ []) :
    ("\n".intercalate (line :: rest)).toList =
      line.toList ++ '\n' :: ("\n".intercalate rest).toList := by
  cases rest with
  | nil => exact absurd rfl hrest
  | cons second rest =>
    rw [String.intercalate_cons_cons, String.toList_append, String.toList_append,
      List.append_assoc]
    rfl

/-- Lines without line ends are split off one by one. -/
theorem splitOn_join_append {first rest : List String}
    (hfirst : ∀ line ∈ first, '\n' ∉ line.toList) (hrest : rest ≠ []) :
    ("\n".intercalate (first ++ rest)).toList.splitOn '\n' =
      first.map String.toList ++ ("\n".intercalate rest).toList.splitOn '\n' := by
  induction first with
  | nil => rfl
  | cons line others ih =>
    rw [List.forall_mem_cons] at hfirst
    have hne : others ++ rest ≠ [] := List.append_ne_nil_of_right_ne_nil others hrest
    rw [List.cons_append, toList_join_cons line hne,
      List.splitOn_append_cons_self_of_not_mem hfirst.1, ih hfirst.2]
    rfl

def bodyLines (pieces : List String) : List String :=
  pieces.map RenderModule.appendLine ++ ["    return ''.join(_out)", ""]

/-- The body is read back as its pieces: a statement ends where its bracket does, whatever lines its
expression runs over. -/
theorem statements?_bodyLines {pieces : List String}
    (hpieces : ∀ piece ∈ pieces, isSelfContained piece = true) :
    statements? ("\n".intercalate (bodyLines pieces)).toList = some pieces := by
  induction pieces with
  | nil =>
    have hlast : statement? ("\n".intercalate (bodyLines [])).toList = none := by decide +kernel
    rw [statements?]
    split
    · next hfound =>
      rw [hlast] at hfound
      cases hfound
    · exact if_pos (by decide +kernel)
  | cons piece rest ih =>
    rw [List.forall_mem_cons] at hpieces
    have hne : bodyLines rest ≠ [] := by simp [bodyLines]
    have hbody : bodyLines (piece :: rest) = RenderModule.appendLine piece :: bodyLines rest := rfl
    rw [hbody, toList_join_cons _ hne,
      statements?_of_statement? (statement?_appendLine hpieces.1 _), ih hpieces.2]
    rfl

/-! ## The whole source -/

theorem functionName?_eq_some {name : String} (hname : '(' ∉ name.toList) :
    functionName? ("def " ++ name ++ "(self):").toList = some name := by
  have hline : ("def " ++ name ++ "(self):").toList =
      "def ".toList ++ (name.toList ++ "(self):".toList) := by
    rw [String.toList_append, String.toList_append, List.append_assoc]
  have hall : ∀ character ∈ name.toList, (character != '(') = true := by
    intro character hmem
    rw [bne_iff_ne]
    rintro rfl
    exact hname hmem
  rw [hline, functionName?, List.dropPrefix?_append_of_beq _ BEq.rfl]
  have hbefore : "(self):".toList.takeWhile (· != '(') = [] := rfl
  have hafter : "(self):".toList.dropWhile (· != '(') = "(self):".toList := rfl
  simp only [Option.bind_eq_bind, Option.bind_some, List.dropWhile_append_of_pos hall,
    List.takeWhile_append_of_pos hall, hbefore, hafter, List.append_nil, String.ofList_toList,
    guard, if_true]
  rfl

/-- The lines up to the body have no line ends in them. -/
theorem not_mem_of_mem_head {target : RenderModule} (hname : '\n' ∉ target.functionName.toList)
    (himports : ∀ name ∈ target.imports, '\n' ∉ name.toList) {line : String}
    (hline : line ∈ RenderModule.importLines target.imports ++
      ["def " ++ target.functionName ++ "(self):", "    _out = []"]) : '\n' ∉ line.toList := by
  have hfixed : ∀ text ∈ ["import ", "", "def ", "(self):", "    _out = []"],
      '\n' ∉ text.toList := by decide +kernel
  rcases List.mem_append.mp hline with himport | hdefinition
  · unfold RenderModule.importLines at himport
    split at himport
    · cases himport
    · rcases List.mem_append.mp himport with hnamed | hblank
      · obtain ⟨name, hmem, rfl⟩ := List.mem_map.mp hnamed
        rw [String.toList_append, List.mem_append, not_or]
        exact ⟨hfixed _ (by simp), himports name hmem⟩
      · apply hfixed line
        simp at hblank
        simp [hblank]
  · rcases List.mem_cons.mp hdefinition with rfl | hopening
    · rw [String.toList_append, String.toList_append, List.mem_append, List.mem_append, not_or,
        not_or]
      exact ⟨⟨hfixed _ (by simp), hname⟩, hfixed _ (by simp)⟩
    · apply hfixed line
      rw [List.mem_singleton.mp hopening]
      simp

theorem splitOn_source {target : RenderModule} (hname : '\n' ∉ target.functionName.toList)
    (himports : ∀ name ∈ target.imports, '\n' ∉ name.toList) :
    target.source.toList.splitOn '\n' =
      target.imports.map (fun name ↦ "import ".toList ++ name.toList) ++
        ((if target.imports.isEmpty then [] else [[], []]) ++
          ("def " ++ target.functionName ++ "(self):").toList :: "    _out = []".toList ::
            ("\n".intercalate (bodyLines target.pieces)).toList.splitOn '\n') := by
  have hlines : target.lines = (RenderModule.importLines target.imports ++
      ["def " ++ target.functionName ++ "(self):", "    _out = []"]) ++
        bodyLines target.pieces := by
    simp only [RenderModule.lines, bodyLines, List.append_assoc]
  have hne : bodyLines target.pieces ≠ [] := by simp [bodyLines]
  rw [RenderModule.source, hlines,
    splitOn_join_append (fun _ ↦ not_mem_of_mem_head hname himports) hne]
  unfold RenderModule.importLines
  cases target.imports with
  | nil => rfl
  | cons first rest => simp [List.map_append, String.toList_append]

theorem function?_eq_some {target : RenderModule} (hname : '(' ∉ target.functionName.toList)
    (hpieces : ∀ piece ∈ target.pieces, isSelfContained piece = true) :
    function? target.imports
        (("def " ++ target.functionName ++ "(self):").toList :: "    _out = []".toList ::
          ("\n".intercalate (bodyLines target.pieces)).toList.splitOn '\n') =
      some ⟨target.functionName, target.imports, target.pieces⟩ := by
  rw [function?, functionName?_eq_some hname, List.intercalate_splitOn,
    statements?_bodyLines hpieces]
  simp only [guard, if_true]
  rfl

/-- The reader finds what the source was written from. -/
theorem read?_source {target : RenderModule}
    (hname : ∀ character ∈ target.functionName.toList, character ≠ '(' ∧ character ≠ '\n')
    (himports : ∀ name ∈ target.imports, '\n' ∉ name.toList)
    (hpieces : ∀ piece ∈ target.pieces, isSelfContained piece = true) :
    read? target.source = some ⟨target.functionName, target.imports, target.pieces⟩ := by
  have hround : '(' ∉ target.functionName.toList := fun hmem ↦ (hname _ hmem).1 rfl
  have hline : '\n' ∉ target.functionName.toList := fun hmem ↦ (hname _ hmem).2 rfl
  have hmarked : ∀ line ∈ target.imports.map fun name ↦ "import ".toList ++ name.toList,
      isImport line = true := by
    intro line hmem
    obtain ⟨name, _, rfl⟩ := List.mem_map.mp hmem
    exact List.isPrefixOf_iff_prefix.mpr (List.prefix_append _ _)
  have hnames : (target.imports.map fun name ↦ "import ".toList ++ name.toList).map
      (fun line ↦ String.ofList (line.drop 7)) = target.imports := by
    rw [List.map_map, List.map_congr_left (g := id), List.map_id]
    intro name _
    exact String.ofList_toList
  have hheader : ¬isImport ("def " ++ target.functionName ++ "(self):").toList = true := by
    rw [String.toList_append, String.toList_append]
    exact Bool.false_ne_true
  have hblank : ¬isImport [] = true := Bool.false_ne_true
  unfold read?
  rw [splitOn_source hline himports]
  dsimp only
  rw [List.takeWhile_append_of_pos hmarked, List.dropWhile_append_of_pos hmarked]
  cases hempty : target.imports.isEmpty with
  | true =>
    rw [if_pos rfl, List.nil_append, List.takeWhile_cons_of_neg hheader,
      List.dropWhile_cons_of_neg hheader, List.append_nil, hnames, hempty, if_pos rfl]
    exact function?_eq_some hround hpieces
  | false =>
    rw [if_neg Bool.false_ne_true, List.cons_append, List.takeWhile_cons_of_neg hblank,
      List.dropWhile_cons_of_neg hblank, List.append_nil, hnames, hempty,
      if_neg Bool.false_ne_true]
    exact function?_eq_some hround hpieces

end Reading

end TemplateCalls
