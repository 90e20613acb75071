import PlotBoard.Render.Renderer

namespace PlotBoard

/-!
# Recording

A renderer that notes each plot instead of drawing it.
-/

/-- What is noted about a plot. -/
structure DrawCall (C : Type) where
  name : String
  dimensions : Nat
  primaryRange : Nat × Nat
  axisTitles : List String
  integral : C
  request : DrawRequest

variable {K C : Type} [Scalar K] [Scalar C]

/-- The note about a plot. -/
def DrawCall.of (plot : Drawable K C) (request : DrawRequest) : DrawCall C where
  name := plot.histogram.name
  dimensions := plot.histogram.dimensions
  primaryRange := plot.histogram.primaryAxis.range
  axisTitles := plot.histogram.axes.map Axis.title
  integral := plot.histogram.integral
  request := request

/-- The renderer whose state is the list of its notes, oldest first. -/
def Renderer.recording : Renderer K C (List (DrawCall C)) where
  draw plot request calls := (.ok (), calls ++ [.of plot request])

end PlotBoard
