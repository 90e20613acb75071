import PlotBoard.Layout.Basic
import PlotBoard.Layout.Surface

namespace PlotBoard

/-!
# Dividing a surface by a layout

Every drawn row becomes a horizontal strip of the unit square, the first one at
the top, and its cells cut the strip into equal parts from left to right. The
vertical orientation turns the finished picture. Regions are numbered from one
in reading order and keep the same margin on every side that is not suppressed.
-/

/-- A cell of a layout: its drawn row, its column and what the row says about it. -/
structure Slot where
  row : Nat
  column : Nat
  columns : Nat
  mode : Option MarginMode

/--
The sides on which a cell gives up its margin. In the middle mode these are the
sides shared with neighbours of its row, and a lone cell opens to the rows
before and after it.
-/
def Slot.suppressed (slot : Slot) (orientation : Orientation) : Sides :=
  let isFirst := slot.column = 0
  let isLast := slot.column + 1 = slot.columns
  match slot.mode with
  | none => {}
  | some .top => { top := true }
  | some .bottom => { bottom := true }
  | some .left => { left := true }
  | some .right => { right := true }
  | some .middle =>
      if slot.columns = 1 then
        if orientation.isVertical then
          { left := true, right := true }
        else
          { top := true, bottom := true }
      else if orientation.isVertical then
        { top := !isLast, bottom := !isFirst }
      else
        { right := !isLast, left := !isFirst }

namespace Layout

/-- All cells in reading order. -/
def slots (layout : Layout) : List Slot :=
  layout.drawnRows.zipIdx.flatMap fun (row, index) =>
    (List.range row.columns.toNat).map fun column =>
      { row := index
        column := column
        columns := row.columns.toNat
        mode := row.mode }

end Layout

variable {K : Type} [Scalar K]

namespace Slot

/-- The part of the unit square that a cell takes in a layout that runs horizontally. -/
def horizontalBounds (slot : Slot) (rowCount : Nat) : Rect K :=
  let rows : K := (rowCount : K)
  let columns : K := (slot.columns : K)
  let row : K := (slot.row : K)
  Rect.ofLines
    ((slot.column : K) / columns)
    ((rows - row - ((1 : Nat) : K)) / rows)
    (((slot.column + 1 : Nat) : K) / columns)
    ((rows - row) / rows)

/-- The part of the unit square that a cell takes. -/
def bounds
    (slot : Slot)
    (orientation : Orientation)
    (rowCount : Nat) :
    Rect K :=
  if orientation.isVertical then
    (slot.horizontalBounds rowCount).quarterTurn
  else
    slot.horizontalBounds rowCount

end Slot

namespace Layout

/-- The regions of a layout, numbered in reading order. -/
def regions (layout : Layout) (margin : K) : List (Region K) :=
  layout.slots.zipIdx.map fun (slot, index) =>
    let suppressed := slot.suppressed layout.orientation
    { number := index + 1
      name := s!"pad{index}"
      bounds := slot.bounds layout.orientation layout.drawnRows.length
      row := slot.row
      column := slot.column
      suppressed := suppressed
      margins := (Margins.uniform margin).suppress suppressed }

end Layout

/-- The surface with the regions of a layout instead of its own, and their number. -/
def Surface.divide
    (surface : Surface K)
    (margin : K)
    (layout : Layout) :
    Surface K × Nat :=
  let regions := layout.regions margin
  ({ surface.clear with regions := regions }, regions.length)

end PlotBoard
