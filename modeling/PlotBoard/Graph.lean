import PlotBoard.Axis.Basic
import PlotBoard.Rect

namespace PlotBoard

/-!
# Point graphs

A graph is a list of finite points with two axes that span them. Graphs that are
drawn over each other form a group, in which axes can be switched to show times.
-/

variable {K : Type} [Scalar K]

/-- Points and the axes that span them. -/
structure Graph (K : Type) [Scalar K] where
  name : String
  points : List (Point K)
  xAxis : Axis K
  yAxis : Axis K

namespace Graph

/-- Why there is no graph of some points. -/
inductive Fault (K : Type) where
  | notFinite (name : String)
  | axis (fault : Axis.Fault K)

/-- Every fault is reported as an invalid histogram. -/
def Fault.toError : Fault K → Error
  | .notFinite name => .invalidHistogram ("graph `" ++ name ++ "` has a non-finite point")
  | .axis fault => fault.toError

/-- The number of bins of the axes. -/
def axisBins : Nat := 100

/--
The interval that an axis spans for some coordinates: from the least to the
greatest, a unit interval around them when they are all equal, and `[0, 1]`
when there are none.
-/
def extent : List K → K × K
  | [] => (((0 : Nat) : K), ((1 : Nat) : K))
  | first :: rest =>
      let low := rest.foldl Scalar.lesser first
      let high := rest.foldl Scalar.greater first
      let half : K := ((1 : Nat) : K) / ((2 : Nat) : K)
      if Scalar.same low high then (low - half, high + half) else (low, high)

/-- An axis that spans some coordinates. -/
def spanningAxis (name : String) (coordinates : List K) : Except (Fault K) (Axis K) :=
  let (low, high) := extent coordinates
  ((Axis.uniform axisBins low high).map (·.withName name)).mapError .axis

/-- Both coordinates are finite. -/
def isFinitePoint (point : Point K) : Bool :=
  Scalar.isFinite point.x && Scalar.isFinite point.y

/-- The graph of some points. -/
def create (name : String) (points : List (Point K)) : Except (Fault K) (Graph K) :=
  if points.all isFinitePoint then
    match spanningAxis "x" (points.map Point.x) with
    | .error fault => .error fault
    | .ok xAxis =>
        match spanningAxis "y" (points.map Point.y) with
        | .error fault => .error fault
        | .ok yAxis =>
            .ok { name := name, points := points, xAxis := xAxis, yAxis := yAxis }
  else
    .error (.notFinite name)

/-- The format of times on an axis: day and month. -/
def timeFormat : String := "%d/%m"

/-- An axis that shows times: the usual divisions, not optimized. -/
def timeAxis (axis : Axis K) : Axis K :=
  (axis.withStyle { axis.style with divisions := 510, optimizeDivisions := false }).showTime
    timeFormat

/-- The graph with the wanted axes showing times. -/
def showTimes (graph : Graph K) (onX onY : Bool) : Graph K :=
  { graph with
    xAxis := if onX then timeAxis graph.xAxis else graph.xAxis
    yAxis := if onY then timeAxis graph.yAxis else graph.yAxis }

end Graph

/-- Graphs that are drawn over each other, oldest first. -/
structure GraphGroup (K : Type) [Scalar K] where
  graphs : List (Graph K) := []

namespace GraphGroup

/-- The group with one more graph. -/
def add (group : GraphGroup K) (graph : Graph K) : GraphGroup K where
  graphs := group.graphs ++ [graph]

/--
The group with the axes that an option names, `X` and `Y`, showing times on
every graph, and the number of axes that were set.
-/
def setTimeAxes (group : GraphGroup K) (option : String) : GraphGroup K × Nat :=
  let onX := 'X' ∈ option.toList
  let onY := 'Y' ∈ option.toList
  let letters := (if onX then 1 else 0) + (if onY then 1 else 0)
  ({ graphs := group.graphs.map fun graph => graph.showTimes onX onY },
    group.graphs.foldl (fun count _ => count + letters) 0)

end GraphGroup

end PlotBoard
