import PlotBoard.Catalog
import PlotBoard.LabelTable
import PlotBoard.Query.Expression
import PlotBoard.Query.Range
import PlotBoard.Render.Renderer
import PlotBoard.Settings.Basic

namespace PlotBoard

/-!
# Evaluating expressions

The interpreter finds the histogram that an expression names, projects it,
titles the axes of the projection, restricts the first one and hands a plot to a
renderer. All of that but the drawing is `Interpreter.plan`, which touches no
renderer; so nothing is drawn unless every check has passed.
-/

variable {K C : Type} [Scalar K]

/-- What an expression leaves behind. -/
inductive Outcome (K C : Type) [Scalar K] where
  | projected (projection : Projected K C)
  | unprojected (input : Histogram K C)

namespace Outcome

/-- The projection, or the input when there is none. -/
def histogram : Outcome K C → Histogram K C
  | .projected projection => projection.histogram
  | .unprojected input => input

/-- The input was projected. -/
def isConsumed : Outcome K C → Bool
  | .projected _ => true
  | .unprojected _ => false

/-- The projection was handed to the renderer. -/
def isDrawn : Outcome K C → Bool
  | .projected projection => projection.plot?.isSome
  | .unprojected _ => false

/-- The projection, if there is one. -/
def projected? : Outcome K C → Option (Projected K C)
  | .projected projection => some projection
  | .unprojected _ => none

end Outcome

/-- Where histograms and titles come from, and which of them are used. -/
structure Interpreter (K C : Type) [Scalar K] where
  store : Option (Source K C) := none
  fallback : Option (Source K C) := none
  labels : Option LabelTable := none
  settings : QuerySettings := {}

namespace Interpreter

/-- The source asked when the store has no histogram of a name. -/
def activeFallback (interpreter : Interpreter K C) : Option (Source K C) :=
  if interpreter.settings.fallback then interpreter.fallback else none

/-- The histogram of a name, from the store if it has one. -/
def resolve (interpreter : Interpreter K C) (name : String) : Except Error (Histogram K C) :=
  let stored := interpreter.store.bind fun source => source name
  let otherwise := interpreter.activeFallback.bind fun source => source name
  match stored.or otherwise with
  | some histogram => .ok histogram
  | none => .error (.histogramNotFound name)

/-- The labels from which axes are titled. -/
def activeLabels (interpreter : Interpreter K C) : Option LabelTable :=
  if interpreter.settings.axisTitles then interpreter.labels else none

/-- The axis with the title that a table has for its name; one without a name stays as it is. -/
def titledAxis (labels : LabelTable) (axis : Axis K) : Axis K :=
  if axis.name = "" then
    axis
  else
    match labels.axisTitle? axis.name with
    | some title => axis.withTitle title
    | none => axis

@[simp] theorem bins_titledAxis (labels : LabelTable) (axis : Axis K) :
    (titledAxis labels axis).bins = axis.bins := by
  unfold titledAxis
  split
  · rfl
  · split <;> rfl

/-- The histogram with every axis titled. -/
def titled (interpreter : Interpreter K C) (histogram : Histogram K C) : Histogram K C :=
  match interpreter.activeLabels with
  | none => histogram
  | some labels => histogram.mapAxes (titledAxis labels) (bins_titledAxis labels)

variable [Scalar C] [ReadsLiterals K]

/-- The titled projection of an input, with its first axis restricted if it can be drawn. -/
def projection
    (interpreter : Interpreter K C)
    (expression : Expression)
    (input : Histogram K C) :
    Except Error (Projected K C) :=
  if input.dimensions < expression.projection.length then
    .error (.tooFewAxes expression.name expression.projection.length input.dimensions)
  else
    match input.projection expression.keep with
    | .error error => .error error
    | .ok projected =>
        match Projected.ofHistogram (interpreter.titled projected) with
        | .higher histogram => .ok (.higher histogram)
        | .drawable plot =>
            match plot.histogram.applyRange expression.range with
            | .error error => .error error
            | .ok (_, restricted) => .ok (Projected.ofHistogram restricted)

/-- What an expression leaves behind for an input, before anything is drawn. -/
def plan
    (interpreter : Interpreter K C)
    (expression : Expression)
    (input : Histogram K C) :
    Except Error (Outcome K C) :=
  if expression.hasProjection then
    (interpreter.projection expression input).map .projected
  else
    .ok (.unprojected input)

/-- What an expression asks of the renderer. -/
def request (expression : Expression) : DrawRequest where
  operation := expression.operation
  option := expression.option

/-- The plot of an outcome drawn once, if it has one. -/
def render
    {S : Type}
    (renderer : Renderer K C S)
    (drawRequest : DrawRequest)
    (outcome : Outcome K C)
    (state : S) :
    Except Error (Outcome K C) × S :=
  match outcome.projected?.bind Projected.plot? with
  | none => (.ok outcome, state)
  | some plot =>
      match renderer.draw plot drawRequest state with
      | (.ok (), after) => (.ok outcome, after)
      | (.error error, after) => (.error error, after)

/-- A plan carried out; a failed plan draws nothing. -/
def carryOut
    {S : Type}
    (renderer : Renderer K C S)
    (drawRequest : DrawRequest)
    (planned : Except Error (Outcome K C))
    (state : S) :
    Except Error (Outcome K C) × S :=
  match planned with
  | .error error => (.error error, state)
  | .ok outcome => render renderer drawRequest outcome state

/-- An expression evaluated for the histogram of its name. -/
def evaluate
    {S : Type}
    (interpreter : Interpreter K C)
    (renderer : Renderer K C S)
    (expression : Expression)
    (state : S) :
    Except Error (Outcome K C) × S :=
  carryOut renderer (request expression)
    ((interpreter.resolve expression.name).bind (interpreter.plan expression))
    state

/--
A text evaluated as an expression. The histogram of its name is looked up before
the clauses are read, so that a missing histogram is reported first.
-/
def draw
    {S : Type}
    (interpreter : Interpreter K C)
    (renderer : Renderer K C S)
    (text : String)
    (state : S) :
    Except Error (Outcome K C) × S :=
  match (Expression.nameOf text).bind interpreter.resolve with
  | .error error => (.error error, state)
  | .ok input =>
      match Expression.parse text with
      | .error error => (.error error, state)
      | .ok expression =>
          carryOut renderer (request expression) (interpreter.plan expression input) state

omit [Scalar C] [ReadsLiterals K] in
/-- The interpreter as it is described: which parts it has, its labels and its settings. -/
def description (interpreter : Interpreter K C) : String :=
  let labels :=
    match interpreter.labels with
    | none => "None"
    | some table => "Some(" ++ table.description ++ ")"
  "QueryInterpreter \x7b store: " ++ toString interpreter.store.isSome
    ++ ", fallback: " ++ toString interpreter.fallback.isSome
    ++ ", metadata: " ++ labels
    ++ ", config: QueryConfig \x7b fallback: " ++ toString interpreter.settings.fallback
    ++ ", axis_titles: " ++ toString interpreter.settings.axisTitles ++ " \x7d \x7d"

end Interpreter

end PlotBoard
