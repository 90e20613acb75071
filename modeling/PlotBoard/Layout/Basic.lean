namespace PlotBoard

/-!
# Layouts

A layout divides a drawing surface into rows of equally wide cells. Rows are
read from top to bottom; in the vertical orientation the whole picture makes a
quarter turn. A row without columns is kept in the layout but is not drawn.
-/

/-- How the rows of a layout run; a layout without a word for it runs horizontally. -/
inductive Orientation where
  | unstated
  | vertical
  | horizontal
  deriving DecidableEq

/-- Rows stand beside each other instead of above each other. -/
def Orientation.isVertical (orientation : Orientation) : Bool :=
  orientation = .vertical

/-- Which margins the cells of a row give up. -/
inductive MarginMode where
  | middle
  | top
  | bottom
  | left
  | right
  deriving DecidableEq

/-- A number of equally wide cells and the margins that they give up. -/
structure Row where
  columns : UInt64
  mode : Option MarginMode
  deriving DecidableEq

/-- Rows in reading order and the way they run. -/
structure Layout where
  orientation : Orientation
  rows : List Row
  deriving DecidableEq

namespace Layout

/-- The rows that have cells. -/
def drawnRows (layout : Layout) : List Row :=
  layout.rows.filter fun row => 0 < row.columns

/-- The number of cells of all rows, counted in 64 bits. -/
def regionCount (layout : Layout) : UInt64 :=
  (layout.rows.map Row.columns).foldl (· + ·) 0

end Layout

end PlotBoard
