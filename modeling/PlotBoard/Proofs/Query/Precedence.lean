import PlotBoard.Proofs.Query.Drawing
import PlotBoard.Proofs.Query.RoundTrip

namespace PlotBoard

/-!
# Which fault of a text is reported

A text is checked in a fixed order: the number of its parentheses, the name, the
clauses, the number of indices, the indices, and for one to three of them the
range clause. The first check that fails is reported and leaves the renderer
alone. When all pass, one to three indices are drawn by one request to the
renderer, and no or more than three indices are not drawn.
-/

variable {K C : Type} [Scalar K]

/-- The renderer that also notes what it is asked to draw. -/
def Renderer.noting
    {S : Type}
    (renderer : Renderer K C S) :
    Renderer K C (S × List (Drawable K C × DrawRequest)) where
  draw plot drawRequest state :=
    ((renderer.draw plot drawRequest state.1).1,
      (renderer.draw plot drawRequest state.1).2,
      state.2 ++ [(plot, drawRequest)])

namespace Expression

/-- The trimmed text before the first parenthesis that opens. -/
def leadingName (text : String) : String :=
  String.ofList (Text.trim (text.toList.takeWhile (· ≠ '(')))

theorem nameOf_of_balanced
    {text : String}
    (balanced : text.toList.count '(' = text.toList.count ')') :
    nameOf text = .ok (leadingName text) := by
  simp only [nameOf, name?, if_pos balanced, leadingName]

theorem nameOf_of_unbalanced
    {text : String}
    (unbalanced : text.toList.count '(' ≠ text.toList.count ')') :
    nameOf text =
      .error
        (.malformedExpression text
          (Fault.unbalanced (text.toList.count '(') (text.toList.count ')')).reason) := by
  simp only [nameOf, name?, if_neg unbalanced, Fault.toError]

end Expression

namespace RangeClause

variable [ReadsLiterals K]

/-- The clause is blank, or it can be read. -/
def Readable (K : Type) [Scalar K] [ReadsLiterals K] (text : String) : Prop :=
  Text.trim text.toList = [] ∨
    ∃ clause : RangeClause K, ofChars? (Text.trim text.toList) = some clause

theorem exists_clause_of_readable
    {text : String}
    (readable : Readable K text) :
    ∃ clause, RangeClause.parse (K := K) text = .ok clause := by
  by_cases blank : Text.trim text.toList = []
  · exact ⟨none, by simp only [parse, if_pos blank]⟩
  · obtain ⟨clause, read⟩ := readable.resolve_left blank
    exact ⟨some clause, by simp only [parse, if_neg blank, read]⟩

theorem parse_of_not_readable
    {text : String}
    (unreadable : ¬Readable K text) :
    RangeClause.parse (K := K) text = .error (.invalidRange (Text.trimmed text)) := by
  obtain ⟨notBlank, notRead⟩ := not_or.mp unreadable
  cases read : ofChars? (K := K) (Text.trim text.toList) with
  | none => simp only [parse, if_neg notBlank, read, Text.trimmed]
  | some clause => exact absurd ⟨clause, read⟩ notRead

end RangeClause

theorem Projected.ofHistogram_of_three_lt
    {histogram : Histogram K C}
    (many : 3 < histogram.dimensions) :
    ofHistogram histogram = .higher histogram := by
  rw [ofHistogram, dif_neg (by omega), dif_neg (by omega), dif_neg (by omega)]

namespace Interpreter

/-- Neither the store nor the fallback, if it is to be asked, has a histogram of the name. -/
structure Lacks (interpreter : Interpreter K C) (name : String) : Prop where
  not_stored : ∀ source, interpreter.store = some source → source name = none
  not_in_fallback :
    interpreter.settings.fallback = true →
    ∀ source, interpreter.fallback = some source → source name = none

/-- The histogram of the name in the store, or in the fallback when it is to be asked. -/
inductive Provides
    (interpreter : Interpreter K C)
    (name : String)
    (histogram : Histogram K C) :
    Prop where
  | stored
      (source : Source K C)
      (isStore : interpreter.store = some source)
      (found : source name = some histogram)
  | fallback
      (source : Source K C)
      (notStored : ∀ store, interpreter.store = some store → store name = none)
      (enabled : interpreter.settings.fallback = true)
      (isFallback : interpreter.fallback = some source)
      (found : source name = some histogram)

theorem lacks_or_provides
    (interpreter : Interpreter K C)
    (name : String) :
    interpreter.Lacks name ∨ ∃ histogram, interpreter.Provides name histogram := by
  cases stored : interpreter.store.bind fun source => source name with
  | some histogram =>
      obtain ⟨source, isStore, found⟩ := Option.bind_eq_some_iff.mp stored
      exact Or.inr ⟨histogram, .stored source isStore found⟩
  | none =>
      have notStored := Option.bind_eq_none_iff.mp stored
      by_cases enabled : interpreter.settings.fallback = true
      · cases inFallback : interpreter.fallback.bind fun source => source name with
        | some histogram =>
            obtain ⟨source, isFallback, found⟩ := Option.bind_eq_some_iff.mp inFallback
            exact Or.inr ⟨histogram, .fallback source notStored enabled isFallback found⟩
        | none =>
            exact Or.inl ⟨notStored, fun _ => Option.bind_eq_none_iff.mp inFallback⟩
      · exact Or.inl ⟨notStored, fun asked => absurd asked enabled⟩

theorem resolve_of_lacks
    {interpreter : Interpreter K C}
    {name : String}
    (lacks : interpreter.Lacks name) :
    interpreter.resolve name = .error (.histogramNotFound name) := by
  have notStored : (interpreter.store.bind fun source => source name) = none :=
    Option.bind_eq_none_iff.mpr lacks.not_stored
  have notInFallback : (interpreter.activeFallback.bind fun source => source name) = none := by
    unfold activeFallback
    split
    · next enabled => exact Option.bind_eq_none_iff.mpr (lacks.not_in_fallback enabled)
    · rfl
  rw [resolve, notStored, notInFallback]
  rfl

theorem resolve_of_provides
    {interpreter : Interpreter K C}
    {name : String}
    {histogram : Histogram K C}
    (provides : interpreter.Provides name histogram) :
    interpreter.resolve name = .ok histogram := by
  rcases provides with ⟨source, isStore, found⟩ | ⟨source, notStored, enabled, isFallback, found⟩
  · have stored : (interpreter.store.bind fun source => source name) = some histogram := by
      rw [isStore, Option.bind_some, found]
    rw [resolve, stored]
    rfl
  · have notStored : (interpreter.store.bind fun source => source name) = none :=
      Option.bind_eq_none_iff.mpr notStored
    have inFallback :
        (interpreter.activeFallback.bind fun source => source name) = some histogram := by
      rw [activeFallback, if_pos enabled, isFallback, Option.bind_some, found]
    rw [resolve, notStored, inFallback]
    rfl

variable [Scalar C] [ReadsLiterals K]

/-- What a renderer is asked to draw for a text, in the order in which it is asked. -/
def requests
    {S : Type}
    (interpreter : Interpreter K C)
    (renderer : Renderer K C S)
    (text : String)
    (state : S) :
    List (Drawable K C × DrawRequest) :=
  (interpreter.draw renderer.noting text (state, [])).2.2

/-- A text ends with a result, and no renderer is asked for anything or changed. -/
structure EndsUndrawn
    (interpreter : Interpreter K C)
    (text : String)
    (result : Except Error (Outcome K C)) :
    Prop where
  draw_eq :
    ∀ (S : Type) (renderer : Renderer K C S) (state : S),
      interpreter.draw renderer text state = (result, state)
  requests_eq :
    ∀ (S : Type) (renderer : Renderer K C S) (state : S),
      interpreter.requests renderer text state = []

/-- Every renderer is asked for one plot, and what it answers decides how the text ends. -/
structure DrawsOnce
    (interpreter : Interpreter K C)
    (text : String)
    (plot : Drawable K C)
    (drawRequest : DrawRequest) :
    Prop where
  draw_of_ok :
    ∀ (S : Type) (renderer : Renderer K C S) (state after : S),
      renderer.draw plot drawRequest state = (.ok (), after) →
      interpreter.draw renderer text state = (.ok (.projected (.drawable plot)), after)
  draw_of_error :
    ∀ (S : Type) (renderer : Renderer K C S) (state after : S) (error : Error),
      renderer.draw plot drawRequest state = (.error error, after) →
      interpreter.draw renderer text state = (.error error, after)
  requests_eq :
    ∀ (S : Type) (renderer : Renderer K C S) (state : S),
      interpreter.requests renderer text state = [(plot, drawRequest)]

/-- How a text ends that is an expression and whose name has a histogram. -/
structure Answers
    (interpreter : Interpreter K C)
    (text : String)
    (expression : Expression)
    (input : Histogram K C) :
    Prop where
  of_no_index :
    expression.projection = [] →
    interpreter.EndsUndrawn text (.ok (.unprojected input))
  of_too_many_indices :
    input.dimensions < expression.projection.length →
    interpreter.EndsUndrawn text
      (.error
        (.tooFewAxes expression.name expression.projection.length input.dimensions))
  /-- The index that is reported is the first one that is out of range or repeated. -/
  of_invalid_index :
    expression.projection ≠ [] →
    expression.projection.length ≤ input.dimensions →
    ¬Histogram.Keeps input.dimensions expression.keep →
    ∃ before axis after,
      expression.keep = before ++ axis :: after ∧
        Histogram.Keeps input.dimensions before ∧
        (input.dimensions ≤ axis ∨ axis ∈ before) ∧
        interpreter.EndsUndrawn text (.error (.invalidAxis axis input.dimensions))
  /-- More than three indices are never drawn, whatever the range clause says. -/
  of_many_indices :
    3 < expression.projection.length →
    expression.projection.length ≤ input.dimensions →
    Histogram.Keeps input.dimensions expression.keep →
    ∃ histogram,
      histogram.dimensions = expression.projection.length ∧
        interpreter.EndsUndrawn text (.ok (.projected (.higher histogram)))
  of_unreadable_range :
    expression.projection ≠ [] →
    expression.projection.length ≤ 3 →
    expression.projection.length ≤ input.dimensions →
    Histogram.Keeps input.dimensions expression.keep →
    ¬RangeClause.Readable K expression.range →
    interpreter.EndsUndrawn text (.error (.invalidRange (Text.trimmed expression.range)))
  of_readable_range :
    expression.projection ≠ [] →
    expression.projection.length ≤ 3 →
    expression.projection.length ≤ input.dimensions →
    Histogram.Keeps input.dimensions expression.keep →
    RangeClause.Readable K expression.range →
    ∃ plot,
      plot.rank = expression.projection.length ∧
        interpreter.DrawsOnce text plot (request expression)

theorem endsUndrawn_of_draw_eq
    {interpreter : Interpreter K C}
    {text : String}
    {result : Except Error (Outcome K C)}
    (draw_eq :
      ∀ (S : Type) (renderer : Renderer K C S) (state : S),
        interpreter.draw renderer text state = (result, state)) :
    interpreter.EndsUndrawn text result := by
  refine ⟨draw_eq, ?_⟩
  intro S renderer state
  rw [requests, draw_eq]

theorem endsUndrawn_of_nameOf
    {interpreter : Interpreter K C}
    {text : String}
    {error : Error}
    (refused : (Expression.nameOf text).bind interpreter.resolve = .error error) :
    interpreter.EndsUndrawn text (.error error) := by
  apply endsUndrawn_of_draw_eq
  intro S renderer state
  rw [draw, refused]

section Parsed

variable
  {interpreter : Interpreter K C}
  {text : String}
  {expression : Expression}
  {input : Histogram K C}

theorem endsUndrawn_of_parse
    {error : Error}
    (named : (Expression.nameOf text).bind interpreter.resolve = .ok input)
    (refused : Expression.parse text = .error error) :
    interpreter.EndsUndrawn text (.error error) := by
  apply endsUndrawn_of_draw_eq
  intro S renderer state
  rw [draw, named, refused]

/-- An expression whose name has a histogram is planned, and the plan carried out. -/
theorem draw_of_parse
    (named : (Expression.nameOf text).bind interpreter.resolve = .ok input)
    (parsed : Expression.parse text = .ok expression)
    {S : Type}
    (renderer : Renderer K C S)
    (state : S) :
    interpreter.draw renderer text state =
      carryOut renderer (request expression) (interpreter.plan expression input) state := by
  rw [draw, named, parsed]

theorem endsUndrawn_of_plan_eq_error
    {error : Error}
    (named : (Expression.nameOf text).bind interpreter.resolve = .ok input)
    (parsed : Expression.parse text = .ok expression)
    (planned : interpreter.plan expression input = .error error) :
    interpreter.EndsUndrawn text (.error error) := by
  apply endsUndrawn_of_draw_eq
  intro S renderer state
  rw [draw_of_parse named parsed, planned]
  rfl

theorem endsUndrawn_of_plan_eq_ok
    {outcome : Outcome K C}
    (named : (Expression.nameOf text).bind interpreter.resolve = .ok input)
    (parsed : Expression.parse text = .ok expression)
    (planned : interpreter.plan expression input = .ok outcome)
    (noPlot : outcome.projected?.bind Projected.plot? = none) :
    interpreter.EndsUndrawn text (.ok outcome) := by
  apply endsUndrawn_of_draw_eq
  intro S renderer state
  rw [draw_of_parse named parsed, planned, carryOut, render, noPlot]

theorem drawsOnce_of_plan
    {plot : Drawable K C}
    (named : (Expression.nameOf text).bind interpreter.resolve = .ok input)
    (parsed : Expression.parse text = .ok expression)
    (planned : interpreter.plan expression input = .ok (.projected (.drawable plot))) :
    interpreter.DrawsOnce text plot (request expression) := by
  refine
    { draw_of_ok := ?_
      draw_of_error := ?_
      requests_eq := ?_ }
  · intro S renderer state after drawn
    rw [draw_of_parse named parsed, planned, carryOut_drawable, drawn]
    rfl
  · intro S renderer state after error refused
    rw [draw_of_parse named parsed, planned, carryOut_drawable, refused]
    rfl
  · intro S renderer state
    rw [requests, draw_of_parse named parsed, planned, carryOut_drawable]
    rfl

theorem plan_of_index
    (someIndex : expression.projection ≠ []) :
    interpreter.plan expression input =
      (interpreter.projection expression input).map .projected := by
  rw [plan, if_pos (Expression.hasProjection_of_length_pos (List.length_pos_iff.mpr someIndex))]

theorem plan_of_too_many
    (tooMany : input.dimensions < expression.projection.length) :
    interpreter.plan expression input =
      .error
        (.tooFewAxes expression.name expression.projection.length input.dimensions) := by
  have someIndex := List.ne_nil_of_length_pos (Nat.zero_lt_of_lt tooMany)
  rw [plan_of_index someIndex, projection, if_pos tooMany]
  rfl

/-- What is wrong with the indices is reported before the range clause is read. -/
theorem plan_of_projection_eq_error
    {error : Error}
    (someIndex : expression.projection ≠ [])
    (notTooMany : expression.projection.length ≤ input.dimensions)
    (refused : input.projection expression.keep = .error error) :
    interpreter.plan expression input = .error error := by
  rw [plan_of_index someIndex, projection, if_neg (Nat.not_lt.mpr notTooMany), refused]
  rfl

/-- A projection onto more than three axes is titled, and the range clause is not read. -/
theorem projection_of_many
    {result : Histogram K C}
    (many : 3 < expression.projection.length)
    (found : input.projection expression.keep = .ok result) :
    interpreter.projection expression input = .ok (.higher (interpreter.titled result)) ∧
      (interpreter.titled result).dimensions = expression.projection.length := by
  obtain ⟨-, notTooMany, -, isProjection⟩ := Histogram.isProjection_of_projection_eq_ok found
  rw [Expression.keep, List.length_map] at notTooMany
  have dimensions :
      (interpreter.titled result).dimensions = expression.projection.length := by
    have shown := interpreter.dimensions_shown none result
    rw [isProjection.dimensions_eq, Expression.keep, List.length_map] at shown
    exact shown
  have sorted := Projected.ofHistogram_of_three_lt (dimensions ▸ many)
  refine ⟨?_, dimensions⟩
  rw [projection, if_neg (Nat.not_lt.mpr notTooMany)]
  simp only [found, sorted]

/-- A projection onto more than three axes is planned without reading the range clause. -/
theorem plan_of_many
    {result : Histogram K C}
    (many : 3 < expression.projection.length)
    (found : input.projection expression.keep = .ok result) :
    interpreter.plan expression input =
        .ok (.projected (.higher (interpreter.titled result))) ∧
      (interpreter.titled result).dimensions = expression.projection.length := by
  have someIndex := List.ne_nil_of_length_pos (Nat.zero_lt_of_lt many)
  constructor
  · rw [plan_of_index someIndex, (projection_of_many many found).1]
    rfl
  · exact (projection_of_many many found).2

theorem plan_of_unreadable_range
    {result : Histogram K C}
    (someIndex : expression.projection ≠ [])
    (atMostThree : expression.projection.length ≤ 3)
    (found : input.projection expression.keep = .ok result)
    (unreadable : ¬RangeClause.Readable K expression.range) :
    interpreter.plan expression input =
      .error (.invalidRange (Text.trimmed expression.range)) := by
  rw [plan_of_index someIndex, projection_eq_map_parse atMostThree found,
    RangeClause.parse_of_not_readable unreadable]
  rfl

theorem exists_plan_of_readable_range
    {result : Histogram K C}
    (someIndex : expression.projection ≠ [])
    (atMostThree : expression.projection.length ≤ 3)
    (found : input.projection expression.keep = .ok result)
    (readable : RangeClause.Readable K expression.range) :
    ∃ plot,
      interpreter.plan expression input = .ok (.projected (.drawable plot)) ∧
        plot.rank = expression.projection.length := by
  obtain ⟨clause, parsed⟩ := RangeClause.exists_clause_of_readable readable
  obtain ⟨-, -, -, isProjection⟩ := Histogram.isProjection_of_projection_eq_ok found
  obtain ⟨plot, sorted, plotHistogram⟩ :=
    exists_drawable_shown atMostThree found interpreter clause
  refine ⟨plot, ?_, ?_⟩
  · rw [plan_of_index someIndex, projection_eq_map_parse atMostThree found, parsed,
      Except.map, sorted]
    rfl
  · rw [plot.rank_eq_dimensions, plotHistogram, dimensions_shown, isProjection.dimensions_eq,
      Expression.keep, List.length_map]

/-- Each way in which the checks of an expression can end decides what is reported. -/
theorem answers_of_parse
    (named : (Expression.nameOf text).bind interpreter.resolve = .ok input)
    (parsed : Expression.parse text = .ok expression) :
    interpreter.Answers text expression input := by
  have sameLength : expression.keep.length = expression.projection.length :=
    List.length_map _
  have keepNonempty : expression.projection ≠ [] → expression.keep ≠ [] := by
    intro someIndex none
    exact someIndex (List.map_eq_nil_iff.mp none)
  refine
    { of_no_index := ?_
      of_too_many_indices := ?_
      of_invalid_index := ?_
      of_many_indices := ?_
      of_unreadable_range := ?_
      of_readable_range := ?_ }
  · intro noIndex
    have planned : interpreter.plan expression input = .ok (.unprojected input) := by
      simp [plan, Expression.hasProjection, noIndex]
    exact endsUndrawn_of_plan_eq_ok named parsed planned rfl
  · intro tooMany
    exact endsUndrawn_of_plan_eq_error named parsed (plan_of_too_many tooMany)
  · intro someIndex notTooMany notKept
    obtain ⟨before, axis, after, split, beforeKept, invalid, refused⟩ :=
      Histogram.projection_of_not_keeps (keepNonempty someIndex)
        (sameLength ▸ notTooMany) notKept
    refine ⟨before, axis, after, split, beforeKept, invalid, ?_⟩
    apply endsUndrawn_of_plan_eq_error named parsed
    exact plan_of_projection_eq_error someIndex notTooMany refused
  · intro many notTooMany keeps
    have someIndex := List.ne_nil_of_length_pos (Nat.zero_lt_of_lt many)
    obtain ⟨result, found, -⟩ :=
      Histogram.projection_of_keeps (keepNonempty someIndex) (sameLength ▸ notTooMany) keeps
    obtain ⟨planned, dimensions⟩ := plan_of_many many found
    exact ⟨_, dimensions, endsUndrawn_of_plan_eq_ok named parsed planned rfl⟩
  · intro someIndex atMostThree notTooMany keeps unreadable
    obtain ⟨result, found, -⟩ :=
      Histogram.projection_of_keeps (keepNonempty someIndex) (sameLength ▸ notTooMany) keeps
    apply endsUndrawn_of_plan_eq_error named parsed
    exact plan_of_unreadable_range someIndex atMostThree found unreadable
  · intro someIndex atMostThree notTooMany keeps readable
    obtain ⟨result, found, -⟩ :=
      Histogram.projection_of_keeps (keepNonempty someIndex) (sameLength ▸ notTooMany) keeps
    obtain ⟨plot, planned, rank⟩ :=
      exists_plan_of_readable_range someIndex atMostThree found readable
    exact ⟨plot, rank, drawsOnce_of_plan named parsed planned⟩

end Parsed

/--
Unequal numbers of parentheses are reported before a missing histogram, a missing
histogram before clauses that cannot be read, and those before anything that has
to do with the input. Only what passes every check is drawn, by one request.
-/
theorem draw_outcomes
    (interpreter : Interpreter K C)
    (text : String) :
    (text.toList.count '(' ≠ text.toList.count ')' →
      interpreter.EndsUndrawn text
        (.error
          (.malformedExpression text
            (Expression.Fault.unbalanced (text.toList.count '(')
              (text.toList.count ')')).reason))) ∧
      (text.toList.count '(' = text.toList.count ')' →
        (interpreter.Lacks (Expression.leadingName text) ∨
            ∃ input, interpreter.Provides (Expression.leadingName text) input) ∧
          (interpreter.Lacks (Expression.leadingName text) →
            interpreter.EndsUndrawn text
              (.error (.histogramNotFound (Expression.leadingName text)))) ∧
          ∀ input,
            interpreter.Provides (Expression.leadingName text) input →
            (∀ error,
              Expression.parse text = .error error →
              (∃ reason, error = .malformedExpression text reason) ∧
                interpreter.EndsUndrawn text (.error error)) ∧
              ∀ expression,
                Expression.parse text = .ok expression →
                interpreter.Answers text expression input) := by
  constructor
  · intro unbalanced
    apply endsUndrawn_of_nameOf
    rw [Expression.nameOf_of_unbalanced unbalanced, Except.bind]
  · intro balanced
    have name := Expression.nameOf_of_balanced balanced
    refine ⟨interpreter.lacks_or_provides _, ?_, ?_⟩
    · intro lacks
      apply endsUndrawn_of_nameOf
      rw [name, Except.bind, resolve_of_lacks lacks]
    · intro input provides
      have named : (Expression.nameOf text).bind interpreter.resolve = .ok input := by
        rw [name, Except.bind, resolve_of_provides provides]
      constructor
      · intro error refused
        exact
          ⟨Expression.exists_reason_of_parse_eq_error refused,
            endsUndrawn_of_parse named refused⟩
      · intro expression parsed
        exact answers_of_parse named parsed

/-- An expression that passes every check is drawn by one request. -/
theorem drawsOnce_sampleExpression :
    ∃ plot : Drawable Float Rat,
      plot.rank = 1 ∧ sampleInterpreter.DrawsOnce "grid(2,3)(0)()()" plot {} := by
  have parsed : Expression.parse "grid(2,3)(0)()()" = .ok sampleExpression := by
    rfl
  have provides : sampleInterpreter.Provides "grid" sampleInput :=
    .stored _ rfl rfl
  have readable : RangeClause.Readable Float sampleExpression.range :=
    .inr ⟨.bins 2 3, rfl⟩
  obtain ⟨-, outcomes⟩ := draw_outcomes sampleInterpreter "grid(2,3)(0)()()"
  obtain ⟨-, -, provided⟩ := outcomes (by decide)
  have answers := (provided sampleInput provides).2 sampleExpression parsed
  exact answers.of_readable_range (by decide) (by decide) (by decide) ⟨by decide, by decide⟩ readable

end Interpreter

end PlotBoard
