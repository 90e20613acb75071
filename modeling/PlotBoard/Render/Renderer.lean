import PlotBoard.Histogram.Ranked

namespace PlotBoard

/-!
# Renderers

A renderer draws a plot by changing a state of its own. It may report an error,
and may have changed its state even then. What the operation and the option of a
request mean is up to the renderer.
-/

/-- The operation and the option of an expression. -/
structure DrawRequest where
  operation : String := ""
  option : String := ""
  deriving DecidableEq

/-- A way of drawing plots with a state of type `S`. -/
structure Renderer (K C S : Type) [Scalar K] where
  draw : Drawable K C → DrawRequest → S → Except Error Unit × S

/-- The renderer that draws nothing and always reports the same reason. -/
def Renderer.failing {K C S : Type} [Scalar K] (reason : String) : Renderer K C S where
  draw _ _ state := (.error (.rendering reason), state)

end PlotBoard
