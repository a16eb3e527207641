import Mathlib.Data.Set.Function
import TemplateCalls.Proofs.QuotedReading
import TemplateCalls.Proofs.SelfContainedCode

/-!
# Composed expressions

Fallbacks, collapsed white space and literals may be nested in one another to any depth: what is put
together from self-contained operands is self-contained. The operands of a fallback and of collapsed
white space can be told from the expression, because each ends exactly at the bracket that closes
the one opened before it. This is not so for arbitrary operands, which may hold the text that
joins two operands.
-/

namespace TemplateCalls.Expression

open Scanner
open Text (quote)

/-! ## Nested expressions -/

/-- Code that is put together from self-contained code. -/
inductive Composed : String → Prop where
  | operand {code : String} (selfContained : isSelfContained code = true) : Composed code
  | fallback {value replacement : String} :
      Composed value → Composed replacement → Composed (fallback value replacement)
  | collapseWhitespace (context : Context) {value replacement : String} :
      Composed value → Composed replacement →
        Composed (collapseWhitespace context value replacement)
  | collection {entries : List Entry} {code : String} :
      (∀ argument ∈ entries.filterMap Entry.argument?, Composed argument.value) →
      (∀ argument ∈ entries.filterMap Entry.argument?, argument.kind = .computed →
        ∀ key, argument.key = some key → Composed key) →
      collection entries = .ok code → Composed code

/-- Whatever is composed of the templates is self-contained. -/
theorem Composed.isSelfContained {code : String} (hcode : Composed code) :
    isSelfContained code = true := by
  induction hcode with
  | operand hselfContained => exact hselfContained
  | fallback _ _ ihvalue ihreplacement => exact isSelfContained_fallback ihvalue ihreplacement
  | collapseWhitespace context _ _ ihvalue ihreplacement =>
    exact isSelfContained_collapseWhitespace context ihvalue ihreplacement
  | collection _ _ hcode ihvalues ihkeys =>
    exact isSelfContained_of_collection
      (fun argument hargument ↦ ⟨ihvalues argument hargument, ihkeys argument hargument⟩) hcode

/-! ## Operands -/

/-- The operand after fixed text that ends with an opened bracket, and what follows the bracket that
closes it. -/
def operandAfter? (before : String) (text : List Char) : Option (String × List Char) := do
  let (operand, rest) ← cut? ')' start (← text.dropPrefix? before.toList)
  return (.ofList operand, rest)

def fallbackOperands? (code : String) : Option (String × String) := do
  let (value, rest) ← operandAfter? "(_tmp if (_tmp := (" code.toList
  let (replacement, rest) ← operandAfter? ") is not None and _tmp != '' else (" rest
  guard (rest = [')'])
  return (value, replacement)

def whitespaceOperands? (code : String) : Option (CodeText × String × String) := do
  let (replacement, rest) ←
    operandAfter? ("re.sub(" ++ quote whitespacePattern ++ ", str(") code.toList
  let (value, rest) ← operandAfter?
    (".replace(" ++ quote "\\" ++ ", " ++ quote "\\\\" ++ "), ('' if (_tmp := (") rest
  let (charset, rest) ← Text.Quoted.read? (← rest.dropPrefix? ") is None else _tmp.decode(".toList)
  let mode ←
    rest.dropPrefix? ", 'replace') if isinstance(_tmp, bytes) else str(_tmp)), flags=".toList
  guard (mode = (if isUtf8 charset then "re.UNICODE)" else "re.ASCII)").toList)
  return (charset, value, replacement)

/-- A self-contained operand between parentheses is cut out as a whole. -/
theorem operandAfter?_append {operand : String} (hoperand : isSelfContained operand = true)
    (before : String) (rest : List Char) :
    operandAfter? before (before.toList ++ (operand.toList ++ ')' :: rest)) =
      some (operand, rest) := by
  rw [operandAfter?, List.dropPrefix?_append_of_beq _ BEq.rfl, Option.bind_eq_bind,
    Option.bind_some, (isWhole_closing hoperand).cut?_append_separator rfl]
  simp only [Option.bind_eq_bind, Option.bind_some, String.ofList_toList]
  rfl

theorem fallbackOperands?_fallback {value replacement : String}
    (hvalue : isSelfContained value = true) (hreplacement : isSelfContained replacement = true) :
    fallbackOperands? (fallback value replacement) = some (value, replacement) := by
  have hcode : (fallback value replacement).toList = "(_tmp if (_tmp := (".toList ++
      (value.toList ++ ')' :: (") is not None and _tmp != '' else (".toList ++
        (replacement.toList ++ ')' :: [')']))) := by
    unfold fallback
    simp only [String.toList_append, List.append_assoc]
    rfl
  rw [fallbackOperands?, hcode, operandAfter?_append hvalue]
  simp only [Option.bind_eq_bind, Option.bind_some, operandAfter?_append hreplacement]
  rfl

/-- The code as the reader takes it apart. -/
theorem toList_collapseWhitespace (context : Context) (value replacement : String) :
    (collapseWhitespace context value replacement).toList =
      ("re.sub(" ++ quote whitespacePattern ++ ", str(").toList ++ (replacement.toList ++ ')' ::
        ((".replace(" ++ quote "\\" ++ ", " ++ quote "\\\\" ++ "), ('' if (_tmp := (").toList ++
          (value.toList ++ ')' :: (") is None else _tmp.decode(".toList ++
            (Text.Quoted.encode context.charset ++
              (", 'replace') if isinstance(_tmp, bytes) else str(_tmp)), flags=".toList ++
                (if context.isUtf8 then "re.UNICODE)" else "re.ASCII)").toList)))))) := by
  have hstr : ", str(".toList = ", ".toList ++ "str(".toList := by decide +kernel
  have hreplace : ").replace(".toList = ')' :: ".replace(".toList := by decide +kernel
  have htest : "), ('' if (_tmp := (".toList =
      ")".toList ++ (", ".toList ++ "('' if (_tmp := (".toList) := by decide +kernel
  have hdecode : ")) is None else _tmp.decode(".toList =
      ')' :: ") is None else _tmp.decode(".toList := by decide +kernel
  have hflags : ", 'replace') if isinstance(_tmp, bytes) else str(_tmp)), flags=".toList =
      ", 'replace') if isinstance(_tmp, bytes) else str(_tmp))".toList ++ ", flags=".toList := by
    decide +kernel
  have hmode : (if context.isUtf8 then "re.UNICODE)" else "re.ASCII)").toList =
      (if context.isUtf8 then "re.UNICODE" else "re.ASCII").toList ++ ")".toList := by
    cases context.isUtf8 <;> rfl
  unfold collapseWhitespace verbatimReplacement textOf CodeText.quote
  simp only [String.toList_append, String.toList_ofList, List.append_assoc, hstr, hreplace, htest,
    hdecode, hflags, hmode, List.cons_append]

theorem whitespaceOperands?_collapseWhitespace (context : Context) {value replacement : String}
    (hvalue : isSelfContained value = true) (hreplacement : isSelfContained replacement = true) :
    whitespaceOperands? (collapseWhitespace context value replacement) =
      some (context.charset, value, replacement) := by
  have hcharset (rest : List Char) :
      Text.Quoted.read? (Text.Quoted.encode context.charset ++
        (", 'replace') if isinstance(_tmp, bytes) else str(_tmp)), flags=".toList ++ rest)) =
      some (context.charset,
        ", 'replace') if isinstance(_tmp, bytes) else str(_tmp)), flags=".toList ++ rest) := by
    obtain ⟨mark, hmark⟩ := Text.Quoted.exists_mark_eq context.charset
    have hcomma : ',' ≠ mark.character := by cases mark <;> decide
    have hhead : ", 'replace') if isinstance(_tmp, bytes) else str(_tmp)), flags=".toList.head? =
        some ',' := by decide +kernel
    refine Text.Quoted.read?_encode context.charset ?_
    rw [hmark, List.head?_append, hhead, Option.some_or]
    exact fun heq ↦ hcomma (Option.some.inj heq)
  rw [whitespaceOperands?, toList_collapseWhitespace, operandAfter?_append hreplacement]
  simp only [Option.bind_eq_bind, Option.bind_some, operandAfter?_append hvalue,
    List.dropPrefix?_append_of_beq _ BEq.rfl, hcharset]
  rw [Context.isUtf8, guard, if_pos rfl]
  rfl

/-! ## Different operands -/

/-- A fallback expression tells its two operands. -/
theorem fallback_injOn :
    Set.InjOn (fun operands : String × String ↦ fallback operands.1 operands.2)
      {operands | isSelfContained operands.1 = true ∧ isSelfContained operands.2 = true} := by
  have hread : Set.EqOn some (fallbackOperands? ∘ fun operands ↦ fallback operands.1 operands.2)
      {operands | isSelfContained operands.1 = true ∧ isSelfContained operands.2 = true} :=
    fun _ hoperands ↦ (fallbackOperands?_fallback hoperands.1 hoperands.2).symm
  exact ((Option.some_injective _).injOn.congr hread).of_comp

/-- A whitespace expression tells its charset and its two operands. -/
theorem collapseWhitespace_injOn :
    Set.InjOn (fun source : CodeText × String × String ↦
        collapseWhitespace ⟨source.1⟩ source.2.1 source.2.2)
      {source | isSelfContained source.2.1 = true ∧ isSelfContained source.2.2 = true} := by
  have hread : Set.EqOn some (whitespaceOperands? ∘ fun source : CodeText × String × String ↦
        collapseWhitespace ⟨source.1⟩ source.2.1 source.2.2)
      {source | isSelfContained source.2.1 = true ∧ isSelfContained source.2.2 = true} :=
    fun source hoperands ↦
      (whitespaceOperands?_collapseWhitespace ⟨source.1⟩ hoperands.1 hoperands.2).symm
  exact ((Option.some_injective _).injOn.congr hread).of_comp

/-- Expressions nested to any depth are self-contained, and from self-contained operands on they
keep their operands apart. -/
theorem expressions_compose :
    (∀ code, Composed code → isSelfContained code = true) ∧
      (∀ value replacement, isSelfContained value = true → isSelfContained replacement = true →
        fallbackOperands? (fallback value replacement) = some (value, replacement)) ∧
      (∀ charset value replacement, isSelfContained value = true →
        isSelfContained replacement = true →
          whitespaceOperands? (collapseWhitespace ⟨charset⟩ value replacement) =
            some (charset, value, replacement)) ∧
      Set.InjOn (fun operands : String × String ↦ fallback operands.1 operands.2)
        {operands | isSelfContained operands.1 = true ∧ isSelfContained operands.2 = true} ∧
      Set.InjOn (fun source : CodeText × String × String ↦
          collapseWhitespace ⟨source.1⟩ source.2.1 source.2.2)
        {source | isSelfContained source.2.1 = true ∧ isSelfContained source.2.2 = true} :=
  ⟨fun _ hcode ↦ hcode.isSelfContained,
    fun _ _ hvalue hreplacement ↦ fallbackOperands?_fallback hvalue hreplacement,
    fun charset _ _ hvalue hreplacement ↦
      whitespaceOperands?_collapseWhitespace ⟨charset⟩ hvalue hreplacement,
    fallback_injOn, collapseWhitespace_injOn⟩

/-- A quoted text that holds what joins the operands of a fallback. -/
def quotedJoint : String := "\")) is not None and _tmp != '' else (\""

/-- The joining text as one operand and a literal as the other, both within collapsed white space
for a charset that holds marks, a bracket and a surrogate. -/
theorem expressions_compose_joint :
    let charset := CodeText.ofString "'a\")" ++ [.surrogate 0]
    let code := collapseWhitespace ⟨charset⟩ (fallback quotedJoint "[b, (c)]") singleSpace
    isSelfContained quotedJoint = true ∧ Composed code ∧ isSelfContained code = true ∧
      fallbackOperands? (fallback quotedJoint "[b, (c)]") = some (quotedJoint, "[b, (c)]") ∧
      whitespaceOperands? code = some (charset, fallback quotedJoint "[b, (c)]", singleSpace) := by
  intro charset code
  have hjoint : isSelfContained quotedJoint = true := by decide +kernel
  have hspace : isSelfContained singleSpace = true := by decide +kernel
  have hliteral : collection [.pair none "b", .pair none "(c)"] = .ok "[b, (c)]" := by rfl
  have hvalues : ∀ argument ∈ [.pair none "b", .pair none "(c)"].filterMap Entry.argument?,
      isSelfContained argument.value = true := by decide +kernel
  have hkinds : ∀ argument ∈ [.pair none "b", .pair none "(c)"].filterMap Entry.argument?,
      argument.kind ≠ .computed := by decide
  have hcollection : Composed "[b, (c)]" :=
    .collection (fun argument hargument ↦ .operand (hvalues argument hargument))
      (fun argument hargument hkind ↦ absurd hkind (hkinds argument hargument)) hliteral
  have hfallback : Composed (fallback quotedJoint "[b, (c)]") :=
    .fallback (.operand hjoint) hcollection
  have hcode : Composed code := .collapseWhitespace ⟨charset⟩ hfallback (.operand hspace)
  obtain ⟨hcomposed, hfallbacks, hwhitespace, _, _⟩ := expressions_compose
  exact ⟨hjoint, hcode, hcomposed code hcode,
    hfallbacks _ _ hjoint (hcomposed _ hcollection),
    hwhitespace charset _ _ (hcomposed _ hfallback) hspace⟩

end TemplateCalls.Expression
