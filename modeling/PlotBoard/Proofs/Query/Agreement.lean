import PlotBoard.Proofs.Query.Precedence

namespace PlotBoard

/-!
# Texts and expressions

A text is drawn like the expression that it spells is evaluated, although its name is
read and looked up before its clauses are. The only text that ends otherwise than its
reading is one whose parentheses are equally many and whose name has no histogram:
the missing histogram is then reported whatever the clauses are like.
-/

namespace Expression

/-- The name that is read before the clauses is the name of the expression. -/
theorem nameOf_of_parse
    {text : String}
    {expression : Expression}
    (parsed : parse text = .ok expression) :
    nameOf text = .ok expression.name := by
  obtain ⟨balanced, groups, -, name, -⟩ := ofChars_eq_ok_iff.mp (parse_eq_ok_iff.mp parsed)
  rw [nameOf_of_balanced balanced, leadingName, ← name, String.ofList_toList]

/-- A text whose name cannot be read is no expression, and both say why in the same words. -/
theorem parse_of_nameOf_eq_error
    {text : String}
    {error : Error}
    (refused : nameOf text = .error error) :
    parse text = .error error := by
  rw [nameOf] at refused
  rw [parse, ofChars]
  cases named : name? text.toList with
  | ok name =>
      rw [named] at refused
      cases refused
  | error fault =>
      rw [named] at refused
      obtain rfl := Except.error.inj refused
      rfl

end Expression

namespace Interpreter

variable {K C : Type} [Scalar K] [Scalar C] [ReadsLiterals K]

section Texts

variable {interpreter : Interpreter K C} {text : String}

/-- Drawing a text is evaluating the expression that it spells. -/
theorem draw_of_parse_eq_ok
    {S : Type}
    {expression : Expression}
    (parsed : Expression.parse text = .ok expression)
    (renderer : Renderer K C S)
    (state : S) :
    interpreter.draw renderer text state = interpreter.evaluate renderer expression state := by
  have named : Expression.nameOf text = .ok expression.name := Expression.nameOf_of_parse parsed
  cases resolved : interpreter.resolve expression.name with
  | error error =>
      rw [draw, named, Except.bind, resolved, evaluate, resolved]
      rfl
  | ok input =>
      have found : (Expression.nameOf text).bind interpreter.resolve = .ok input := by
        rw [named, Except.bind, resolved]
      rw [draw_of_parse found parsed, evaluate_of_resolve resolved]

/-- A missing histogram is reported before clauses that cannot be read. -/
theorem endsUndrawn_of_lacks
    (balanced : text.toList.count '(' = text.toList.count ')')
    (lacks : interpreter.Lacks (Expression.leadingName text)) :
    interpreter.EndsUndrawn text
      (.error (.histogramNotFound (Expression.leadingName text))) := by
  apply endsUndrawn_of_nameOf
  rw [Expression.nameOf_of_balanced balanced, Except.bind, resolve_of_lacks lacks]

/-- Otherwise a text that cannot be read ends with what its reading reports. -/
theorem endsUndrawn_of_parse_eq_error
    {error : Error}
    (refused : Expression.parse text = .error error)
    (notMissing :
      ¬(text.toList.count '(' = text.toList.count ')' ∧
        interpreter.Lacks (Expression.leadingName text))) :
    interpreter.EndsUndrawn text (.error error) := by
  by_cases balanced : text.toList.count '(' = text.toList.count ')'
  · obtain ⟨input, provides⟩ :=
      (interpreter.lacks_or_provides (Expression.leadingName text)).resolve_left
        fun lacks => notMissing ⟨balanced, lacks⟩
    have named : (Expression.nameOf text).bind interpreter.resolve = .ok input := by
      rw [Expression.nameOf_of_balanced balanced, Except.bind, resolve_of_provides provides]
    exact endsUndrawn_of_parse named refused
  · have named := Expression.nameOf_of_unbalanced balanced
    obtain rfl :=
      Except.error.inj (refused.symm.trans (Expression.parse_of_nameOf_eq_error named))
    apply endsUndrawn_of_nameOf
    rw [named, Except.bind]

end Texts

/--
A text that spells an expression is drawn as the expression is evaluated, with the
same result and the same state of the renderer. A text that spells none leaves every
renderer alone and ends with the error of its reading, unless its parentheses are
equally many and its name has no histogram: then the missing histogram is reported.
So a readable expression can be evaluated or be written down and drawn.
-/
theorem draw_agrees_with_evaluate
    (interpreter : Interpreter K C)
    (text : String) :
    (∀ expression,
      Expression.parse text = .ok expression →
      ∀ (S : Type) (renderer : Renderer K C S) (state : S),
        interpreter.draw renderer text state =
          interpreter.evaluate renderer expression state) ∧
      (∀ error,
        Expression.parse text = .error error →
        (text.toList.count '(' = text.toList.count ')' →
          interpreter.Lacks (Expression.leadingName text) →
          interpreter.EndsUndrawn text
            (.error (.histogramNotFound (Expression.leadingName text)))) ∧
          (¬(text.toList.count '(' = text.toList.count ')' ∧
              interpreter.Lacks (Expression.leadingName text)) →
            interpreter.EndsUndrawn text (.error error))) ∧
      ∀ expression : Expression,
        expression.Readable →
        ∀ (S : Type) (renderer : Renderer K C S) (state : S),
          interpreter.draw renderer expression.text state =
            interpreter.evaluate renderer expression state := by
  refine ⟨?_, ?_, ?_⟩
  · intro expression parsed S renderer state
    exact draw_of_parse_eq_ok parsed renderer state
  · intro error refused
    exact ⟨endsUndrawn_of_lacks, endsUndrawn_of_parse_eq_error refused⟩
  · intro expression readable S renderer state
    exact draw_of_parse_eq_ok readable.parse_text renderer state

/-- Texts of all kinds, with the name of a histogram that is there and of one that is not. -/
theorem draw_agrees_with_evaluate_sampleInterpreter :
    (∀ calls,
      sampleInterpreter.draw .recording " grid (2,3)(0)" calls =
        sampleInterpreter.evaluate .recording sampleExpression calls) ∧
      (∀ calls,
        sampleInterpreter.draw .recording "none()(x)" calls =
          (.error (.histogramNotFound "none"), calls)) ∧
      (∀ calls,
        sampleInterpreter.draw .recording "grid()(x)" calls =
          (.error ((Expression.Fault.badIndex "x").toError "grid()(x)"), calls)) ∧
      sampleExpression.Readable ∧
      ∀ calls,
        sampleInterpreter.draw .recording sampleExpression.text calls =
          sampleInterpreter.evaluate .recording sampleExpression calls := by
  have parsed : Expression.parse " grid (2,3)(0)" = .ok sampleExpression := by
    rfl
  have missingRefused :
      Expression.parse "none()(x)" =
        .error ((Expression.Fault.badIndex "x").toError "none()(x)") := by
    rfl
  have refused :
      Expression.parse "grid()(x)" =
        .error ((Expression.Fault.badIndex "x").toError "grid()(x)") := by
    rfl
  have lacks : sampleInterpreter.Lacks "none" := by
    refine ⟨?_, nofun⟩
    rintro _ ⟨⟩
    rfl
  have present : ¬sampleInterpreter.Lacks "grid" := by
    intro absent
    cases absent.not_stored _ rfl
  have readable : sampleExpression.Readable := Expression.readable_of_parse_text rfl
  obtain ⟨drawn, -, -⟩ := draw_agrees_with_evaluate sampleInterpreter " grid (2,3)(0)"
  obtain ⟨-, missing, -⟩ := draw_agrees_with_evaluate sampleInterpreter "none()(x)"
  obtain ⟨-, refusal, written⟩ := draw_agrees_with_evaluate sampleInterpreter "grid()(x)"
  refine ⟨drawn _ parsed _ _, ?_, ?_, readable, written _ readable _ _⟩
  · exact ((missing _ missingRefused).1 (by decide) lacks).draw_eq _ _
  · exact ((refusal _ refused).2 fun both => present both.2).draw_eq _ _

end Interpreter

end PlotBoard
