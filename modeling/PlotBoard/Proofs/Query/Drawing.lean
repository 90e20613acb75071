import PlotBoard.Proofs.Histogram.Integral
import PlotBoard.Proofs.Query.ShownAxes
import PlotBoard.Render.Recording

namespace PlotBoard

/-!
# What a drawn expression shows

An expression with one to three indices hands the titled and restricted
projection of its input to the renderer and leaves the same projection behind.
The range clause takes the place of the restriction that the first axis brought
along; the projected contents were summed under that earlier restriction, so the
integral covers the cells that are active under both.
-/

variable {K C : Type} [Scalar K]

/-- The number of axes that a plot is made for. -/
def Drawable.rank : Drawable K C → Nat
  | .one _ => 1
  | .two _ => 2
  | .three _ => 3

theorem Drawable.rank_eq_dimensions (plot : Drawable K C) :
    plot.rank = plot.histogram.dimensions := by
  cases plot with
  | one ranked => exact ranked.dimensions_eq.symm
  | two ranked => exact ranked.dimensions_eq.symm
  | three ranked => exact ranked.dimensions_eq.symm

/-- A histogram with one, two or three axes can be drawn as it is. -/
theorem Projected.exists_drawable
    {histogram : Histogram K C}
    (positive : 1 ≤ histogram.dimensions)
    (atMostThree : histogram.dimensions ≤ 3) :
    ∃ plot : Drawable K C,
      ofHistogram histogram = .drawable plot ∧ plot.histogram = histogram := by
  unfold ofHistogram
  split
  · next one => exact ⟨.one ⟨histogram, one⟩, rfl, rfl⟩
  · split
    · next two => exact ⟨.two ⟨histogram, two⟩, rfl, rfl⟩
    · split
      · next three => exact ⟨.three ⟨histogram, three⟩, rfl, rfl⟩
      · omega

/-- An expression with an index asks for a projection. -/
theorem Expression.hasProjection_of_length_pos
    {expression : Expression}
    (atLeastOne : 1 ≤ expression.projection.length) :
    expression.hasProjection = true := by
  simpa [hasProjection] using List.ne_nil_of_length_pos atLeastOne

namespace Interpreter

/-- A run that succeeds carries out a plan that succeeds. -/
theorem eq_ok_of_carryOut_eq_ok
    {S : Type}
    {renderer : Renderer K C S}
    {drawRequest : DrawRequest}
    {planned : Except Error (Outcome K C)}
    {state : S}
    {outcome : Outcome K C}
    (succeeds : (carryOut renderer drawRequest planned state).1 = .ok outcome) :
    planned = .ok outcome := by
  cases planned with
  | error error =>
      rw [carryOut] at succeeds
      cases succeeds
  | ok planned =>
      rw [carryOut, render] at succeeds
      split at succeeds
      · exact succeeds
      · split at succeeds
        · exact succeeds
        · cases succeeds

/-- A plan with a plot is carried out by drawing the plot once. -/
theorem carryOut_drawable
    {S : Type}
    (renderer : Renderer K C S)
    (drawRequest : DrawRequest)
    (plot : Drawable K C)
    (state : S) :
    carryOut renderer drawRequest (.ok (.projected (.drawable plot))) state =
      ((renderer.draw plot drawRequest state).1.map fun _ => .projected (.drawable plot),
        (renderer.draw plot drawRequest state).2) := by
  rw [carryOut, render]
  simp only [Outcome.projected?, Option.bind_some, Projected.plot?]
  cases drawn : renderer.draw plot drawRequest state with
  | mk result after => cases result <;> rfl

variable [Scalar C] [ReadsLiterals K]

/-- What an expression draws of an input, whoever draws it. -/
structure Draws
    (interpreter : Interpreter K C)
    (expression : Expression)
    (input : Histogram K C)
    (plot : Drawable K C) :
    Prop where
  /-- A renderer is handed the plot that the outcome holds, and nothing else. -/
  evaluate_eq :
    ∀ (S : Type) (renderer : Renderer K C S) (state : S),
      interpreter.evaluate renderer expression state =
        ((renderer.draw plot (request expression) state).1.map
            fun _ => .projected (.drawable plot),
          (renderer.draw plot (request expression) state).2)
  rank_eq : plot.rank = expression.projection.length
  dimensions_eq : plot.histogram.dimensions = expression.projection.length
  axes_shown :
    ∃ clause,
      RangeClause.parse expression.range = .ok clause ∧
        ∀ place shown,
          plot.histogram.axes[place]? = some shown →
          ∃ index source,
            expression.projection[place]? = some index ∧
              input.axes[index.toNat]? = some source ∧
              interpreter.Shows place clause source shown

/-- Evaluating is planning for the histogram of the name and carrying out the plan. -/
theorem evaluate_of_resolve
    {S : Type}
    {interpreter : Interpreter K C}
    {expression : Expression}
    {input : Histogram K C}
    (resolved : interpreter.resolve expression.name = .ok input)
    (renderer : Renderer K C S)
    (state : S) :
    interpreter.evaluate renderer expression state =
      carryOut renderer (request expression) (interpreter.plan expression input) state := by
  rw [evaluate, resolved]
  rfl

/-- A plan with a plot is evaluated by drawing the plot once. -/
theorem evaluate_of_plan
    {S : Type}
    {interpreter : Interpreter K C}
    {expression : Expression}
    {input : Histogram K C}
    {plot : Drawable K C}
    (resolved : interpreter.resolve expression.name = .ok input)
    (planned : interpreter.plan expression input = .ok (.projected (.drawable plot)))
    (renderer : Renderer K C S)
    (state : S) :
    interpreter.evaluate renderer expression state =
      ((renderer.draw plot (request expression) state).1.map
          fun _ => .projected (.drawable plot),
        (renderer.draw plot (request expression) state).2) := by
  rw [evaluate_of_resolve resolved, planned]
  exact carryOut_drawable renderer (request expression) plot state

/-- A plan with at least one index succeeds with the projection. -/
theorem exists_projection_of_plan_eq_ok
    {interpreter : Interpreter K C}
    {expression : Expression}
    {input : Histogram K C}
    {outcome : Outcome K C}
    (atLeastOne : 1 ≤ expression.projection.length)
    (planned : interpreter.plan expression input = .ok outcome) :
    ∃ projected,
      interpreter.projection expression input = .ok projected ∧
        outcome = .projected projected := by
  rw [plan, if_pos (Expression.hasProjection_of_length_pos atLeastOne)] at planned
  cases found : interpreter.projection expression input with
  | error error =>
      rw [found] at planned
      cases planned
  | ok projected =>
      rw [found] at planned
      exact ⟨projected, rfl, (Except.ok.inj planned).symm⟩

omit [ReadsLiterals K] in
/-- A projection onto at most three axes can be drawn under its titles and restrictions. -/
theorem exists_drawable_shown
    {expression : Expression}
    {input result : Histogram K C}
    (atMostThree : expression.projection.length ≤ 3)
    (found : input.projection expression.keep = .ok result)
    (interpreter : Interpreter K C)
    (clause : Option (RangeClause K)) :
    ∃ plot : Drawable K C,
      Projected.ofHistogram ((interpreter.titled result).restrictAxis 0 clause) =
          .drawable plot ∧
        plot.histogram = (interpreter.titled result).restrictAxis 0 clause := by
  obtain ⟨nonempty, -, -, isProjection⟩ :=
    Histogram.isProjection_of_projection_eq_ok found
  apply Projected.exists_drawable
  · rw [dimensions_shown, isProjection.dimensions_eq]
    exact List.length_pos_iff.mpr nonempty
  · rw [dimensions_shown, isProjection.dimensions_eq, Expression.keep, List.length_map]
    exact atMostThree

/-- When the input has the projection, only the range clause can fail. -/
theorem projection_eq_map_parse
    {interpreter : Interpreter K C}
    {expression : Expression}
    {input result : Histogram K C}
    (atMostThree : expression.projection.length ≤ 3)
    (found : input.projection expression.keep = .ok result) :
    interpreter.projection expression input =
      (RangeClause.parse expression.range).map fun clause =>
        Projected.ofHistogram ((interpreter.titled result).restrictAxis 0 clause) := by
  obtain ⟨-, notTooMany, -, -⟩ := Histogram.isProjection_of_projection_eq_ok found
  rw [Expression.keep, List.length_map] at notTooMany
  have enoughAxes : ¬input.dimensions < expression.projection.length :=
    Nat.not_lt.mpr notTooMany
  obtain ⟨plot, sorted, plotHistogram⟩ :=
    exists_drawable_shown atMostThree found interpreter none
  rw [Histogram.restrictAxis] at sorted plotHistogram
  rw [projection, if_neg enoughAxes]
  simp only [found, sorted, plotHistogram, Histogram.applyRange]
  cases RangeClause.parse (K := K) expression.range <;> rfl

/-- A projection with at most three axes is the titled and restricted plot. -/
theorem exists_plot_of_projection_eq_ok
    {interpreter : Interpreter K C}
    {expression : Expression}
    {input : Histogram K C}
    {projected : Projected K C}
    (atMostThree : expression.projection.length ≤ 3)
    (succeeds : interpreter.projection expression input = .ok projected) :
    ∃ result clause plot,
      input.projection expression.keep = .ok result ∧
        RangeClause.parse expression.range = .ok clause ∧
        projected = .drawable plot ∧
        plot.histogram = (interpreter.titled result).restrictAxis 0 clause := by
  cases found : input.projection expression.keep with
  | error error =>
      rw [projection, found] at succeeds
      split at succeeds <;> cases succeeds
  | ok result =>
      rw [projection_eq_map_parse atMostThree found] at succeeds
      cases parsed : RangeClause.parse (K := K) expression.range with
      | error error =>
          rw [parsed] at succeeds
          cases succeeds
      | ok clause =>
          rw [parsed] at succeeds
          obtain ⟨plot, sorted, plotHistogram⟩ :=
            exists_drawable_shown atMostThree found interpreter clause
          have projectedEq := Except.ok.inj succeeds
          exact
            ⟨result, clause, plot, rfl, rfl, projectedEq.symm.trans sorted, plotHistogram⟩

omit [ReadsLiterals K] in
/-- The axes of the plot are the chosen axes of the input as they are shown. -/
theorem exists_shows_of_getElem?_axes
    {interpreter : Interpreter K C}
    {expression : Expression}
    {input result : Histogram K C}
    {clause : Option (RangeClause K)}
    {place : Nat}
    {shown : Axis K}
    (isProjection : Histogram.IsProjection input expression.keep result)
    (found :
      ((interpreter.titled result).restrictAxis 0 clause).axes[place]? = some shown) :
    ∃ index source,
      expression.projection[place]? = some index ∧
        input.axes[index.toNat]? = some source ∧
        interpreter.Shows place clause source shown := by
  rw [getElem?_axes_shown, Option.map_eq_some_iff] at found
  obtain ⟨source, sourceFound, rfl⟩ := found
  have kept := congrArg (fun axes : List (Option (Axis K)) => axes[place]?) isProjection.axes_eq
  simp only [Expression.keep, List.getElem?_map, sourceFound, Option.map_some,
    Option.map_map] at kept
  obtain ⟨index, indexFound, axisFound⟩ := Option.map_eq_some_iff.mp kept.symm
  exact
    ⟨index, source, indexFound, axisFound, interpreter.shows_shownAxis clause place source⟩

omit [ReadsLiterals K] in
/--
The integral of the plot sums over the active cells of the input whose bin on the
axis that comes first is also active in the plot.
-/
theorem exists_cells_integral_shown
    [Scalar.Exact C]
    {expression : Expression}
    {input result : Histogram K C}
    (interpreter : Interpreter K C)
    (clause : Option (RangeClause K))
    (keeps : Histogram.Keeps input.dimensions expression.keep)
    (isProjection : Histogram.IsProjection input expression.keep result) :
    ∃ cells : List (List Nat),
      cells.Nodup ∧
        (∀ cell,
          cell ∈ cells ↔
            input.IsActiveCell cell ∧
              ∃ index bin,
                expression.projection[0]? = some index ∧
                  cell[index.toNat]? = some bin ∧
                  ((interpreter.titled result).restrictAxis 0 clause).primaryAxis.isActive
                    bin = true) ∧
        ((interpreter.titled result).restrictAxis 0 clause).integral =
          input.sumOver cells := by
  obtain ⟨cells, distinct, members, sum⟩ :=
    isProjection.exists_cells_integral_eq keeps
      (interpreter.shape_shown clause result) (interpreter.content_shown clause result)
  refine ⟨cells, distinct, ?_, sum⟩
  intro cell
  rw [members]
  refine and_congr_right fun active => ?_
  have binsKept := (Histogram.keptBins_eq_iff keeps active).mp rfl
  have keptActive := active.kept isProjection.axes_eq binsKept
  rw [isActiveCell_shown_iff keptActive]
  have firstKept := congrArg List.head? binsKept
  have firstIndex : expression.keep.head? = expression.projection.head?.map UInt64.toNat :=
    List.head?_map
  rw [List.head?_map, List.head?_map, firstIndex, Option.map_map] at firstKept
  simp only [← List.head?_eq_getElem?]
  constructor
  · rintro ⟨bin, headFound, binActive⟩
    rw [headFound, Option.map_some] at firstKept
    obtain ⟨index, indexFound, binFound⟩ := Option.map_eq_some_iff.mp firstKept
    exact ⟨index, bin, indexFound, binFound, binActive⟩
  · rintro ⟨index, bin, indexFound, binFound, binActive⟩
    rw [indexFound, Option.map_some, Function.comp_apply, binFound] at firstKept
    obtain ⟨head, headFound, sameBin⟩ := Option.map_eq_some_iff.mp firstKept.symm
    obtain rfl := Option.some.inj sameBin
    exact ⟨head, headFound, binActive⟩

/-- An input with the chosen axes is drawn when the range clause can be read. -/
theorem exists_outcome_recording
    {interpreter : Interpreter K C}
    {expression : Expression}
    {input : Histogram K C}
    {clause : Option (RangeClause K)}
    (resolved : interpreter.resolve expression.name = .ok input)
    (atLeastOne : 1 ≤ expression.projection.length)
    (atMostThree : expression.projection.length ≤ 3)
    (notTooMany : expression.projection.length ≤ input.dimensions)
    (keeps : Histogram.Keeps input.dimensions expression.keep)
    (parsed : RangeClause.parse expression.range = .ok clause)
    (calls : List (DrawCall C)) :
    ∃ outcome, (interpreter.evaluate .recording expression calls).1 = .ok outcome := by
  have sameLength : expression.keep.length = expression.projection.length :=
    List.length_map _
  have nonempty : expression.keep ≠ [] := by
    rw [← List.length_pos_iff, sameLength]
    exact atLeastOne
  obtain ⟨result, found, -⟩ :=
    Histogram.projection_of_keeps nonempty (sameLength ▸ notTooMany) keeps
  obtain ⟨plot, sorted, -⟩ := exists_drawable_shown atMostThree found interpreter clause
  have planned :
      interpreter.plan expression input = .ok (.projected (.drawable plot)) := by
    rw [plan, if_pos (Expression.hasProjection_of_length_pos atLeastOne),
      projection_eq_map_parse atMostThree found, parsed, Except.map, sorted]
    rfl
  refine ⟨.projected (.drawable plot), ?_⟩
  rw [evaluate_of_plan resolved planned]
  rfl

/--
A successful evaluation with one to three indices draws one plot and returns it.
The plot shows the chosen axes of the input in their order. In exact arithmetic
its integral is the sum over the cells of the input that are active on every axis
and whose bin on the first chosen axis is active in the plot.
-/
theorem evaluate_draws_projection
    {S : Type}
    {interpreter : Interpreter K C}
    {renderer : Renderer K C S}
    {expression : Expression}
    {input : Histogram K C}
    {state : S}
    {outcome : Outcome K C}
    (resolved : interpreter.resolve expression.name = .ok input)
    (atLeastOne : 1 ≤ expression.projection.length)
    (atMostThree : expression.projection.length ≤ 3)
    (succeeds : (interpreter.evaluate renderer expression state).1 = .ok outcome) :
    ∃ plot,
      outcome = .projected (.drawable plot) ∧
        interpreter.Draws expression input plot ∧
        (∀ calls,
          interpreter.evaluate .recording expression calls =
            (.ok outcome, calls ++ [.of plot (request expression)])) ∧
        (Scalar.Exact C →
          ∃ cells : List (List Nat),
            cells.Nodup ∧
              (∀ cell,
                cell ∈ cells ↔
                  input.IsActiveCell cell ∧
                    ∃ index bin,
                      expression.projection[0]? = some index ∧
                        cell[index.toNat]? = some bin ∧
                        plot.histogram.primaryAxis.isActive bin = true) ∧
              (DrawCall.of plot (request expression)).integral = input.sumOver cells) := by
  rw [evaluate_of_resolve resolved] at succeeds
  have planned := eq_ok_of_carryOut_eq_ok succeeds
  obtain ⟨projected, projectionFound, rfl⟩ :=
    exists_projection_of_plan_eq_ok atLeastOne planned
  obtain ⟨result, clause, plot, found, parsed, rfl, plotHistogram⟩ :=
    exists_plot_of_projection_eq_ok atMostThree projectionFound
  obtain ⟨-, -, keeps, isProjection⟩ := Histogram.isProjection_of_projection_eq_ok found
  have dimensions : plot.histogram.dimensions = expression.projection.length := by
    rw [plotHistogram, dimensions_shown, isProjection.dimensions_eq, Expression.keep,
      List.length_map]
  refine
    ⟨plot, rfl,
      { evaluate_eq := fun _ => evaluate_of_plan resolved planned
        rank_eq := plot.rank_eq_dimensions.trans dimensions
        dimensions_eq := dimensions
        axes_shown := ⟨clause, parsed, ?_⟩ }, ?_, ?_⟩
  · intro place shown shownFound
    rw [plotHistogram] at shownFound
    exact exists_shows_of_getElem?_axes isProjection shownFound
  · intro calls
    rw [evaluate_of_plan resolved planned]
    rfl
  · intro exact
    have summed := exists_cells_integral_shown interpreter clause keeps isProjection
    rw [← plotHistogram] at summed
    exact summed

/-- Two axes, the first one with two of its three bins active, and six contents. -/
def sampleInput : Histogram Float Rat where
  name := "grid"
  title := ""
  axes :=
    [ { edges := ⟨[0, 5, 10, 15], by decide, by decide, by decide⟩
        name := "x"
        selection := .span 1 2
        selection_fits := ⟨by decide, by decide, by decide⟩ },
      { edges := ⟨[-1, 0, 1], by decide, by decide, by decide⟩ } ]
  contents := #[1, 2, 3, 4, 5, 6]
  entries := 6
  axes_ne_nil := by decide
  size_contents := by decide
  size_fits := by decide

/-- A catalog with one histogram and a table with one title. -/
def sampleInterpreter : Interpreter Float Rat where
  store := some (Catalog.find? ⟨[sampleInput]⟩)
  labels := some ⟨[("x.AxisTitle", "length")]⟩

/-- The first axis between its second and its third bin. -/
def sampleExpression : Expression where
  name := "grid"
  range := "2,3"
  projection := [0]
  operation := ""
  option := ""

theorem evaluate_sampleExpression :
    ∃ outcome plot,
      (sampleInterpreter.evaluate .recording sampleExpression []).1 = .ok outcome ∧
        outcome = .projected (.drawable plot) ∧
        sampleInterpreter.Draws sampleExpression sampleInput plot ∧
        ∃ cells : List (List Nat),
          cells.Nodup ∧
            (∀ cell,
              cell ∈ cells ↔
                sampleInput.IsActiveCell cell ∧
                  ∃ bin,
                    cell[0]? = some bin ∧
                      plot.histogram.primaryAxis.isActive bin = true) ∧
            plot.histogram.integral = sampleInput.sumOver cells := by
  have resolved : sampleInterpreter.resolve sampleExpression.name = .ok sampleInput := by
    rfl
  have parsed :
      RangeClause.parse sampleExpression.range = .ok (some (.bins 2 3 : RangeClause Float)) := by
    rfl
  obtain ⟨outcome, succeeds⟩ :=
    exists_outcome_recording resolved (by decide) (by decide) (by decide)
      ⟨by decide, by decide⟩ parsed []
  obtain ⟨plot, isPlot, draws, -, summed⟩ :=
    evaluate_draws_projection resolved (by decide) (by decide) succeeds
  obtain ⟨cells, distinct, members, sum⟩ := summed inferInstance
  refine ⟨outcome, plot, succeeds, isPlot, draws, cells, distinct, ?_, sum⟩
  simpa [sampleExpression] using members

end Interpreter

end PlotBoard
