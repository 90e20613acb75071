import PlotBoard.Histogram.Projection

namespace PlotBoard

/-!
# Histograms of known dimension

Histograms with one, two or three axes can be drawn; their axes have the names
`x`, `y` and `z`. A projection is sorted by its number of axes, and one with more
than three is kept as a plain histogram.
-/

variable {K C : Type} [Scalar K]

/-- A histogram with `rank` axes. -/
structure Ranked (rank : Nat) (K C : Type) [Scalar K] where
  histogram : Histogram K C
  dimensions_eq : histogram.dimensions = rank

namespace Ranked

/-- The histogram with its number of axes made known. -/
def ofHistogram (rank : Nat) (histogram : Histogram K C) : Except Error (Ranked rank K C) :=
  if matching : histogram.dimensions = rank then
    .ok ⟨histogram, matching⟩
  else
    .error (.tooFewAxes histogram.name rank histogram.dimensions)

/-- An axis that the rank promises. -/
def axis
    {rank : Nat}
    (ranked : Ranked rank K C)
    (index : Nat)
    (below : index < rank) :
    Axis K :=
  have inside : index < ranked.histogram.axes.length :=
    Nat.lt_of_lt_of_eq below ranked.dimensions_eq.symm
  ranked.histogram.axes[index]

/-- The first axis. -/
def xAxis {rank : Nat} (ranked : Ranked (rank + 1) K C) : Axis K :=
  ranked.axis 0 (by omega)

/-- The second axis. -/
def yAxis {rank : Nat} (ranked : Ranked (rank + 2) K C) : Axis K :=
  ranked.axis 1 (by omega)

/-- The third axis. -/
def zAxis {rank : Nat} (ranked : Ranked (rank + 3) K C) : Axis K :=
  ranked.axis 2 (by omega)

/-- The sum over the third axis. -/
def projectXY [Scalar C] (ranked : Ranked 3 K C) : Except Error (Ranked 2 K C) :=
  (ranked.histogram.projection [0, 1]).bind (ofHistogram 2)

end Ranked

/-- What a renderer can draw. -/
inductive Drawable (K C : Type) [Scalar K] where
  | one (ranked : Ranked 1 K C)
  | two (ranked : Ranked 2 K C)
  | three (ranked : Ranked 3 K C)

/-- The histogram to draw. -/
def Drawable.histogram : Drawable K C → Histogram K C
  | .one ranked => ranked.histogram
  | .two ranked => ranked.histogram
  | .three ranked => ranked.histogram

/-- A projection, sorted by whether it can be drawn. -/
inductive Projected (K C : Type) [Scalar K] where
  | drawable (plot : Drawable K C)
  | higher (histogram : Histogram K C)

namespace Projected

/-- A histogram sorted by its number of axes. -/
def ofHistogram (histogram : Histogram K C) : Projected K C :=
  if one : histogram.dimensions = 1 then
    .drawable (.one ⟨histogram, one⟩)
  else if two : histogram.dimensions = 2 then
    .drawable (.two ⟨histogram, two⟩)
  else if three : histogram.dimensions = 3 then
    .drawable (.three ⟨histogram, three⟩)
  else
    .higher histogram

/-- The projected histogram. -/
def histogram : Projected K C → Histogram K C
  | .drawable plot => plot.histogram
  | .higher histogram => histogram

/-- The plot of a projection with at most three axes. -/
def plot? : Projected K C → Option (Drawable K C)
  | .drawable plot => some plot
  | .higher _ => none

@[simp] theorem histogram_ofHistogram (histogram : Histogram K C) :
    (ofHistogram histogram).histogram = histogram := by
  unfold ofHistogram
  split
  · rfl
  · split
    · rfl
    · split <;> rfl

end Projected

end PlotBoard
