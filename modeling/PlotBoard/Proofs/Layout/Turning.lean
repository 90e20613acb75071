import Mathlib.Data.List.Forall2
import PlotBoard.Proofs.Layout.Numbering
import PlotBoard.Proofs.Layout.Tiling

namespace PlotBoard

/-!
# The vertical reading

The vertical reading of some rows is their horizontal reading after a quarter turn.
The turn takes the right side of a cell to the top, the top to the left, the left
side to the bottom and the bottom to the right. Sides that a middle row suppresses
turn with the cell, since they are the ones between neighbours. Sides that a row
names itself stay: a row that gives up its top margin does so in both readings.
-/

/-- The chosen sides after a quarter turn that takes the top to the left. -/
def Sides.quarterTurn (sides : Sides) : Sides where
  top := sides.right
  left := sides.top
  bottom := sides.left
  right := sides.bottom

namespace Slot

/-- The sides between neighbours, or of a lone cell those before and after its row, turn along. -/
theorem suppressed_vertical_of_middle
    {slot : Slot}
    {orientation : Orientation}
    (middle : slot.mode = some .middle)
    (notVertical : orientation.isVertical = false) :
    slot.suppressed .vertical = (slot.suppressed orientation).quarterTurn := by
  have vertical : Orientation.vertical.isVertical = true := rfl
  simp only [suppressed, middle, vertical, notVertical]
  by_cases lone : slot.columns = 1
  · simp [lone, Sides.quarterTurn]
  · simp [lone, Sides.quarterTurn]

/-- Without the middle mode the sides do not depend on the orientation. -/
theorem suppressed_eq_of_not_middle
    {slot : Slot}
    (notMiddle : slot.mode ≠ some .middle)
    (first second : Orientation) :
    slot.suppressed first = slot.suppressed second := by
  cases mode : slot.mode with
  | none => simp only [suppressed, mode]
  | some chosen =>
      cases chosen with
      | middle => exact absurd mode notMiddle
      | _ => simp only [suppressed, mode]

end Slot

/-- A region of the vertical reading beside the one of the horizontal reading. -/
structure Region.TurnedFrom
    (upright flat : Region Rat)
    (mode : Option MarginMode) :
    Prop where
  number_eq : upright.number = flat.number
  name_eq : upright.name = flat.name
  row_eq : upright.row = flat.row
  column_eq : upright.column = flat.column
  bounds_eq : upright.bounds =
    { left := 1 - flat.bounds.top
      bottom := flat.bounds.left
      right := 1 - flat.bounds.bottom
      top := flat.bounds.right }
  contains_eq : ∀ x y : Rat,
    upright.bounds.contains { x := 1 - y, y := x } = flat.bounds.contains { x := x, y := y }
  suppressed_of_middle : mode = some .middle →
    upright.suppressed = flat.suppressed.quarterTurn
  suppressed_of_not_middle : mode ≠ some .middle →
    upright.suppressed = flat.suppressed

namespace Slot

theorem bounds_vertical
    {orientation : Orientation}
    (slot : Slot)
    (rowCount : Nat)
    (notVertical : orientation.isVertical = false) :
    slot.bounds .vertical rowCount =
      (slot.bounds orientation rowCount : Rect Rat).quarterTurn := by
  rw [bounds, bounds, notVertical]
  rfl

theorem turnedFrom_region
    {slot : Slot}
    {rowCount : Nat}
    {orientation : Orientation}
    (columnWithin : slot.column < slot.columns)
    (rowWithin : slot.row < rowCount)
    (notVertical : orientation.isVertical = false)
    (margin : Rat)
    (place : Nat) :
    (slot.region .vertical rowCount margin place).TurnedFrom
      (slot.region orientation rowCount margin place) slot.mode := by
  have inUnit := inUnit_bounds columnWithin rowWithin orientation
  have turned := slot.bounds_vertical rowCount notVertical
  refine
    { number_eq := rfl
      name_eq := rfl
      row_eq := rfl
      column_eq := rfl
      bounds_eq := ?_
      contains_eq := ?_
      suppressed_of_middle := fun middle => suppressed_vertical_of_middle middle notVertical
      suppressed_of_not_middle := fun notMiddle => suppressed_eq_of_not_middle notMiddle _ _ }
  · exact turned.trans (Rect.quarterTurn_of_le inUnit.left_le_right inUnit.bottom_le_top)
  · intro x y
    have sameAnswer :=
      Rect.contains_quarterTurn inUnit.left_le_right inUnit.bottom_le_top { x := x, y := y }
    rw [← turned] at sameAnswer
    exact sameAnswer

end Slot

/-- The regions are of one cell, and the first one is the second one after a quarter turn. -/
def Region.TurnedIn (rows : List Row) (upright flat : Region Rat) : Prop :=
  ∃ row,
    (Layout.drawnRows { orientation := .unstated, rows := rows })[flat.row]? = some row ∧
      upright.TurnedFrom flat row.mode

namespace Surface

/--
Dividing by some rows that run vertically gives as many regions as dividing by the
same rows running horizontally, with the same numbers, names, rows and columns. The
bounds are the ones of the horizontal reading after a quarter turn; suppressed sides
turn along in middle rows and stay in all others.
-/
theorem divide_vertical
    {orientation : Orientation}
    (notVertical : orientation ≠ .vertical)
    (rows : List Row)
    (margin : Rat)
    (surface other : Surface Rat) :
    let upright := surface.divide margin { orientation := .vertical, rows := rows }
    let flat := other.divide margin { orientation := orientation, rows := rows }
    upright.2 = flat.2 ∧
      List.Forall₂ (Region.TurnedIn rows) upright.1.regions flat.1.regions := by
  have flatReading : orientation.isVertical = false := by
    rw [Orientation.isVertical, decide_eq_false notVertical]
  -- Both readings have the same cells in the same order.
  have sameCells :
      Layout.slots { orientation := .vertical, rows := rows } =
        Layout.slots { orientation := orientation, rows := rows } := rfl
  constructor
  · rw [created_divide, created_divide]
    rfl
  · rw [regions_divide, regions_divide, Layout.regions_eq_map, Layout.regions_eq_map, sameCells,
      List.forall₂_map_left_iff, List.forall₂_map_right_iff, List.forall₂_same]
    rintro ⟨slot, place⟩ member
    have slotMember := List.fst_mem_of_mem_zipIdx member
    obtain ⟨row, found, -, -, sameMode⟩ := Layout.mem_slots_iff.mp slotMember
    refine ⟨row, found, ?_⟩
    rw [← sameMode]
    exact
      Slot.turnedFrom_region (Layout.column_lt_of_mem_slots slotMember)
        (Layout.row_lt_of_mem_slots slotMember) flatReading margin place

/-- A lone cell, three cells that share their margins, and two that give up the right one. -/
def sampleRows : List Row :=
  [⟨1, some .middle⟩, ⟨3, some .middle⟩, ⟨0, none⟩, ⟨2, some .right⟩]

theorem divide_vertical_sampleRows :
    Orientation.unstated ≠ .vertical ∧
      List.Forall₂ (Region.TurnedIn sampleRows)
        ((Surface.named "left").divide (1 / 10)
          { orientation := .vertical, rows := sampleRows }).1.regions
        ((Surface.named "right").divide (1 / 10)
          { orientation := .unstated, rows := sampleRows }).1.regions := by
  have notVertical : Orientation.unstated ≠ .vertical := by
    decide
  exact
    ⟨notVertical,
      (divide_vertical notVertical sampleRows (1 / 10) (.named "left") (.named "right")).2⟩

end Surface

end PlotBoard
