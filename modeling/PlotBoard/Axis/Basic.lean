import PlotBoard.Axis.Edges
import PlotBoard.Axis.Selection
import PlotBoard.Error

namespace PlotBoard

/-!
# Axes

An axis is a named row of bins with a span of active bins and a style. Its edges
never change; names, titles, styles and restrictions do.
-/

/-- How the labels of an axis are drawn. -/
structure AxisStyle where
  divisions : Int := 510
  optimizeDivisions : Bool := true
  timeDisplay : Bool := false
  timeFormat : String := ""
  deriving DecidableEq

/-- A row of bins, some of them active. -/
structure Axis (K : Type) [Scalar K] where
  edges : Edges K
  name : String := ""
  title : String := ""
  selection : Selection := .all
  style : AxisStyle := {}
  selection_fits : selection.Fits edges.binCount := by exact trivial

variable {K : Type} [Scalar K]

namespace Axis

/-- Why there is no axis with the wanted bins. -/
inductive Fault (K : Type) where
  | noBins
  | badLimits (low high : K)
  | badWidth (low high width : K)
  | unresolvable (bins : Nat) (low high : K)
  | fewEdges
  | badEdges

namespace Fault

/-- A half-open interval as it is shown. -/
def interval (low high : K) : String :=
  "[" ++ Scalar.text low ++ ", " ++ Scalar.text high ++ ")"

/-- The text shown for a fault. -/
def message : Fault K → String
  | .noBins => "axis needs at least one bin"
  | .badLimits low high =>
      "axis limits " ++ interval low high ++ " are not an increasing finite interval"
  | .badWidth low high width =>
      "axis limits " ++ interval low high ++ " give bin width " ++ Scalar.text width
  | .unresolvable bins low high =>
      s!"{bins} bins over " ++ interval low high ++ " are not resolvable"
  | .fewEdges => "axis needs at least two edges"
  | .badEdges => "axis edges must be finite and strictly increasing"

/-- A missing axis is reported as an invalid histogram. -/
def toError (fault : Fault K) : Error :=
  .invalidHistogram fault.message

end Fault

/-- The lower edges of `bins` equally wide bins, then the upper end. -/
def uniformEdges (bins : Nat) (low high : K) : List K :=
  let width := (high - low) / (bins : K)
  (List.range bins).map (fun (index : Nat) => low + (index : K) * width) ++ [high]

/-- Equally wide bins over `[low, high)`. -/
def uniform (bins : Nat) (low high : K) : Except (Fault K) (Axis K) :=
  let width := (high - low) / (bins : K)
  if bins = 0 then
    .error .noBins
  else if ¬(Scalar.isFinite low && Scalar.isFinite high) ∨ ¬low < high then
    .error (.badLimits low high)
  else if ¬Scalar.isFinite width ∨ width ≤ ((0 : Nat) : K) then
    .error (.badWidth low high width)
  else
    match Edges.ofList? (uniformEdges bins low high) with
    | some edges => .ok { edges := edges }
    | none => .error (.unresolvable bins low high)

/-- Bins between given edges. -/
def ofEdges (edges : List K) : Except (Fault K) (Axis K) :=
  if edges.length < 2 then
    .error .fewEdges
  else
    match Edges.ofList? edges with
    | some edges => .ok { edges := edges }
    | none => .error .badEdges

/-- Bins of width one that start at zero. -/
def indexed (bins : Nat) : Except (Fault K) (Axis K) :=
  uniform bins ((0 : Nat) : K) (bins : K)

/-- The number of bins. -/
def bins (axis : Axis K) : Nat :=
  axis.edges.binCount

/-- The lower end. -/
def low (axis : Axis K) : K :=
  axis.edges.first

/-- The upper end. -/
def high (axis : Axis K) : K :=
  axis.edges.last

/-- The bin of a coordinate: zero below the axis and one more than `bins` above it. -/
def findBin (axis : Axis K) (coordinate : K) : Nat :=
  axis.edges.findBin coordinate

/-- The axis under another name. -/
def withName (axis : Axis K) (name : String) : Axis K :=
  { axis with name := name }

/-- The axis under another title. -/
def withTitle (axis : Axis K) (title : String) : Axis K :=
  { axis with title := title }

/-- The axis in another style. -/
def withStyle (axis : Axis K) (style : AxisStyle) : Axis K :=
  { axis with style := style }

/-- The axis with labels that show times in the given format. -/
def showTime (axis : Axis K) (format : String) : Axis K :=
  axis.withStyle { axis.style with timeDisplay := true, timeFormat := format }

/-- The axis with exactly the bins from `first` to `last` active. -/
def setRange (axis : Axis K) (first last : Nat) : Axis K :=
  { axis with
    selection := Selection.between axis.bins first last
    selection_fits := Selection.between_fits axis.edges.binCount_pos first last }

/-- The axis with the bins from the one of `lowest` to the one of `highest` active. -/
def setCoordinateRange (axis : Axis K) (lowest highest : K) : Axis K :=
  axis.setRange (axis.findBin lowest) (axis.findBin highest)

/-- The axis with all bins active. -/
def resetRange (axis : Axis K) : Axis K :=
  { axis with selection := .all, selection_fits := trivial }

/-- The first and the last active bin; `(1, 0)` when there is none. -/
def range (axis : Axis K) : Nat × Nat :=
  axis.selection.range axis.bins

/-- The number of active bins. -/
def activeCount (axis : Axis K) : Nat :=
  axis.range.2 + 1 - axis.range.1

/-- The active bins in rising order. -/
def activeBins (axis : Axis K) : List Nat :=
  List.range' axis.range.1 axis.activeCount

/-- The bin is one of the active ones. -/
def isActive (axis : Axis K) (bin : Nat) : Bool :=
  axis.range.1 ≤ bin && bin ≤ axis.range.2

/-- A restriction is in force, even one that leaves all bins active. -/
def isRestricted (axis : Axis K) : Bool :=
  axis.selection ≠ .all

@[simp] theorem edges_setRange (axis : Axis K) (first last : Nat) :
    (axis.setRange first last).edges = axis.edges :=
  rfl

@[simp] theorem edges_setCoordinateRange (axis : Axis K) (lowest highest : K) :
    (axis.setCoordinateRange lowest highest).edges = axis.edges :=
  rfl

@[simp] theorem edges_withTitle (axis : Axis K) (title : String) :
    (axis.withTitle title).edges = axis.edges :=
  rfl

theorem mem_activeBins {axis : Axis K} {bin : Nat} :
    bin ∈ axis.activeBins ↔ axis.isActive bin = true := by
  simp only [activeBins, activeCount, isActive, List.mem_range'_1,
    Bool.and_eq_true, decide_eq_true_eq]
  omega

end Axis

end PlotBoard
