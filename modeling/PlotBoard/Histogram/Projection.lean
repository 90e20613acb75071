import PlotBoard.Histogram.Basic

namespace PlotBoard

/-!
# Projections

A projection keeps some axes of a histogram, in a chosen order, and sums the
active contents over the others. It keeps the restrictions of the axes, so that
cells outside them hold zero, and its name tells the source and the axes.
-/

variable {K C : Type} [Scalar K]

namespace Histogram

/-- The first axis index that is out of range or repeats an earlier one. -/
def firstInvalidAxis? (dimensions : Nat) (earlier : List Nat) : List Nat → Option Nat
  | [] => none
  | axis :: rest =>
      if dimensions ≤ axis ∨ axis ∈ earlier then
        some axis
      else
        firstInvalidAxis? dimensions (axis :: earlier) rest

/-- The name of a projection. -/
def projectionName (name : String) (keep : List Nat) : String :=
  name ++ "_proj_" ++ "_".intercalate (keep.map toString)

/-- The axes that a projection keeps. -/
def keptAxes (histogram : Histogram K C) (keep : List Nat) : List (Axis K) :=
  keep.filterMap fun axis => histogram.axes[axis]?

/-- The bins of a cell along the kept axes. -/
def keptBins (keep : List Nat) (cell : List Nat) : List Nat :=
  keep.map fun axis => cell[axis]?.getD 0

variable [Scalar C]

/-- Every active content added to the cell of its kept bins. -/
def accumulate
    (histogram : Histogram K C)
    (keep : List Nat)
    (target : Histogram K C) :
    Histogram K C :=
  histogram.foldActive
    (fun sum cell content => sum.addToCell (keptBins keep cell) content)
    target

/-- The projection onto the axes with the given indices, in the given order. -/
def projection
    (histogram : Histogram K C)
    (keep : List Nat) :
    Except Error (Histogram K C) :=
  if keep = [] ∨ histogram.dimensions < keep.length then
    .error (.tooFewAxes histogram.name keep.length histogram.dimensions)
  else
    match firstInvalidAxis? histogram.dimensions [] keep with
    | some axis => .error (.invalidAxis axis histogram.dimensions)
    | none =>
        match create (projectionName histogram.name keep) (histogram.keptAxes keep) with
        | .error fault => .error fault.toError
        | .ok empty =>
            .ok ((histogram.accumulate keep (empty.withTitle histogram.title)).withEntries
              histogram.entries)

end Histogram

end PlotBoard
