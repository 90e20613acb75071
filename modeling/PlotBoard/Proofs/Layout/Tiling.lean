import Mathlib.Algebra.Order.Field.Basic
import Mathlib.Data.Rat.Cast.Order
import PlotBoard.Proofs.Layout.Slots
import PlotBoard.Proofs.Rect

namespace PlotBoard

/-!
# Layouts tile the surface

In exact arithmetic the regions of a divided surface lie in the unit square, and
every point of the square that is not on its upper or right edge lies in exactly
one of them, when a region is given its lower and left edges but not the other
two. Points may have coordinates in any ordered field, so also between the
fractions of which edges are made.
-/

section Parts

variable {F : Type*} [Field F] [LinearOrder F]

/-- The number lies in the part at a place when the unit interval is cut into equal parts. -/
def InPart (count place : Nat) (number : F) : Prop :=
  (place : F) / count ≤ number ∧ number < ((place + 1 : Nat) : F) / count

theorem exists_floor_lt
    {count : Nat}
    {number : F}
    (nonnegative : 0 ≤ number)
    (below : number < count) :
    ∃ place < count, (place : F) ≤ number ∧ number < ((place + 1 : Nat) : F) := by
  induction count with
  | zero =>
      rw [Nat.cast_zero] at below
      exact absurd nonnegative (not_le.mpr below)
  | succ count inductionHypothesis =>
      rcases lt_or_ge number (count : F) with belowCount | fromCount
      · obtain ⟨place, placeBelow, between⟩ := inductionHypothesis belowCount
        exact ⟨place, Nat.lt_succ_of_lt placeBelow, between⟩
      · exact ⟨count, Nat.lt_succ_self count, fromCount, below⟩

variable [IsStrictOrderedRing F]

/-- The edges of a part are in order and lie in the unit interval. -/
theorem edges_part
    {count place : Nat}
    (within : place < count) :
    0 ≤ (place : F) / count ∧
      (place : F) / count ≤ ((place + 1 : Nat) : F) / count ∧
      ((place + 1 : Nat) : F) / count ≤ 1 := by
  have positive : (0 : F) < count := Nat.cast_pos.mpr (Nat.zero_lt_of_lt within)
  refine ⟨div_nonneg (Nat.cast_nonneg place) positive.le, ?_, ?_⟩
  · exact div_le_div_of_nonneg_right (Nat.cast_le.mpr (Nat.le_succ place)) positive.le
  · rw [div_le_one₀ positive]
    exact Nat.cast_le.mpr within

theorem inPart_iff
    {count place : Nat}
    {number : F}
    (positive : 0 < count) :
    InPart count place number ↔
      (place : F) ≤ number * count ∧ number * count < ((place + 1 : Nat) : F) := by
  have countPositive : (0 : F) < count := Nat.cast_pos.mpr positive
  rw [InPart, div_le_iff₀ countPositive, lt_div_iff₀ countPositive]

theorem exists_inPart
    {count : Nat}
    {number : F}
    (positive : 0 < count)
    (nonnegative : 0 ≤ number)
    (belowOne : number < 1) :
    ∃ place < count, InPart count place number := by
  have countPositive : (0 : F) < count := Nat.cast_pos.mpr positive
  have scaledBelow : number * count < count := by
    calc
      number * count < 1 * count := mul_lt_mul_of_pos_right belowOne countPositive
      _ = count := one_mul _
  obtain ⟨place, placeBelow, between⟩ :=
    exists_floor_lt (mul_nonneg nonnegative countPositive.le) scaledBelow
  exact ⟨place, placeBelow, (inPart_iff positive).mpr between⟩

theorem InPart.unique
    {count first second : Nat}
    {number : F}
    (positive : 0 < count)
    (inFirst : InPart count first number)
    (inSecond : InPart count second number) :
    first = second := by
  rw [inPart_iff positive] at inFirst inSecond
  have firstBelow : first < second + 1 :=
    Nat.cast_lt.mp (inFirst.1.trans_lt inSecond.2)
  have secondBelow : second < first + 1 :=
    Nat.cast_lt.mp (inSecond.1.trans_lt inFirst.2)
  omega

theorem one_sub_part
    {count place : Nat}
    (within : place ≤ count)
    (positive : 0 < count) :
    1 - (place : F) / count = ((count - place : Nat) : F) / count := by
  have nonzero : (count : F) ≠ 0 := Nat.cast_ne_zero.mpr positive.ne'
  rw [one_sub_div nonzero, Nat.cast_sub within]

end Parts

namespace Rect

/-- The cell of a grid of equal cells in the unit square, counted from the lower left corner. -/
def tile (columns column rows row : Nat) : Rect Rat where
  left := (column : Rat) / columns
  bottom := (row : Rat) / rows
  right := ((column + 1 : Nat) : Rat) / columns
  top := ((row + 1 : Nat) : Rat) / rows

/-- The rectangle is a part of the unit square. -/
structure InUnit (rect : Rect Rat) : Prop where
  zero_le_left : 0 ≤ rect.left
  left_le_right : rect.left ≤ rect.right
  right_le_one : rect.right ≤ 1
  zero_le_bottom : 0 ≤ rect.bottom
  bottom_le_top : rect.bottom ≤ rect.top
  top_le_one : rect.top ≤ 1

/-- The point lies in the rectangle, but neither on its right nor on its upper edge. -/
def Covers {F : Type*} [Field F] [LinearOrder F] (rect : Rect Rat) (x y : F) : Prop :=
  ((rect.left : F) ≤ x ∧ x < (rect.right : F)) ∧ (rect.bottom : F) ≤ y ∧ y < (rect.top : F)

theorem inUnit_tile
    {columns column rows row : Nat}
    (columnWithin : column < columns)
    (rowWithin : row < rows) :
    (tile columns column rows row).InUnit := by
  obtain ⟨zeroLeft, leftRight, rightOne⟩ := edges_part (F := Rat) columnWithin
  obtain ⟨zeroBottom, bottomTop, topOne⟩ := edges_part (F := Rat) rowWithin
  exact ⟨zeroLeft, leftRight, rightOne, zeroBottom, bottomTop, topOne⟩

/-- A point is covered by the cell in whose column and in whose row it lies. -/
theorem covers_tile_iff
    {F : Type*}
    [Field F]
    [LinearOrder F]
    [IsStrictOrderedRing F]
    {columns column rows row : Nat}
    {x y : F} :
    (tile columns column rows row).Covers x y ↔
      InPart columns column x ∧ InPart rows row y := by
  simp only [Covers, tile, InPart, Rat.cast_div, Rat.cast_natCast]

/-- A quarter turn makes columns of rows, and the uppermost row the first column. -/
theorem quarterTurn_tile
    {columns column rows row : Nat}
    (columnWithin : column < columns)
    (rowWithin : row < rows) :
    (tile columns column rows (rows - 1 - row)).quarterTurn =
      tile rows row columns column := by
  have flippedWithin : rows - 1 - row < rows := by omega
  have inUnit := inUnit_tile columnWithin flippedWithin
  have fromTop : rows - (rows - 1 - row + 1) = row := by omega
  have fromBottom : rows - (rows - 1 - row) = row + 1 := by omega
  rw [quarterTurn_of_le inUnit.left_le_right inUnit.bottom_le_top]
  simp only [tile]
  rw [one_sub_part (by omega) (by omega), one_sub_part (by omega) (by omega), fromTop,
    fromBottom]

end Rect

namespace Orientation

/-- The strip of the unit square that a row takes, counted from the left or from below. -/
def strip (orientation : Orientation) (rowCount row : Nat) : Nat :=
  if orientation.isVertical then row else rowCount - 1 - row

/-- The coordinate that tells the cells of a row apart. -/
def along {F : Type*} (orientation : Orientation) (x y : F) : F :=
  if orientation.isVertical then y else x

/-- The coordinate that tells rows apart. -/
def across {F : Type*} (orientation : Orientation) (x y : F) : F :=
  if orientation.isVertical then x else y

theorem strip_lt
    {rowCount row : Nat}
    (within : row < rowCount)
    (orientation : Orientation) :
    orientation.strip rowCount row < rowCount := by
  unfold strip
  split
  · exact within
  · omega

theorem strip_strip
    {rowCount row : Nat}
    (within : row < rowCount)
    (orientation : Orientation) :
    orientation.strip rowCount (orientation.strip rowCount row) = row := by
  unfold strip
  split
  · rfl
  · omega

end Orientation

namespace Slot

theorem horizontalBounds_eq_tile
    {slot : Slot}
    {rowCount : Nat}
    (columnWithin : slot.column < slot.columns)
    (rowWithin : slot.row < rowCount) :
    slot.horizontalBounds rowCount =
      Rect.tile slot.columns slot.column rowCount (rowCount - 1 - slot.row) := by
  have flippedWithin : rowCount - 1 - slot.row < rowCount := by omega
  have inUnit := Rect.inUnit_tile columnWithin flippedWithin
  have lower :
      (rowCount : Rat) - slot.row - ((1 : Nat) : Rat) = (rowCount - 1 - slot.row : Nat) := by
    rw [Nat.sub_right_comm, Nat.cast_sub (by omega), Nat.cast_sub rowWithin.le]
  have upper :
      (rowCount : Rat) - slot.row = (rowCount - 1 - slot.row + 1 : Nat) := by
    rw [← Nat.cast_sub rowWithin.le]
    congr 1
    omega
  calc
    slot.horizontalBounds rowCount =
        Rect.ofLines
          ((slot.column : Rat) / slot.columns)
          (((rowCount - 1 - slot.row : Nat) : Rat) / rowCount)
          (((slot.column + 1 : Nat) : Rat) / slot.columns)
          (((rowCount - 1 - slot.row + 1 : Nat) : Rat) / rowCount) := by
      rw [← lower, ← upper]
      rfl
    _ = Rect.tile slot.columns slot.column rowCount (rowCount - 1 - slot.row) :=
      Rect.ofLines_of_le inUnit.left_le_right inUnit.bottom_le_top

theorem bounds_eq_tile
    {slot : Slot}
    {rowCount : Nat}
    (columnWithin : slot.column < slot.columns)
    (rowWithin : slot.row < rowCount)
    (orientation : Orientation) :
    slot.bounds orientation rowCount =
      if orientation.isVertical then
        Rect.tile rowCount (orientation.strip rowCount slot.row) slot.columns slot.column
      else
        Rect.tile slot.columns slot.column rowCount (orientation.strip rowCount slot.row) := by
  rw [bounds, horizontalBounds_eq_tile columnWithin rowWithin,
    Rect.quarterTurn_tile columnWithin rowWithin, Orientation.strip]
  split <;> rfl

theorem inUnit_bounds
    {slot : Slot}
    {rowCount : Nat}
    (columnWithin : slot.column < slot.columns)
    (rowWithin : slot.row < rowCount)
    (orientation : Orientation) :
    (slot.bounds orientation rowCount).InUnit := by
  have stripWithin := Orientation.strip_lt rowWithin orientation
  rw [bounds_eq_tile columnWithin rowWithin]
  split
  · exact Rect.inUnit_tile stripWithin columnWithin
  · exact Rect.inUnit_tile columnWithin stripWithin

variable {F : Type*} [Field F] [LinearOrder F] [IsStrictOrderedRing F]

/-- A cell covers the points in its part of the row and in the strip of its row. -/
theorem covers_bounds_iff
    {slot : Slot}
    {rowCount : Nat}
    (columnWithin : slot.column < slot.columns)
    (rowWithin : slot.row < rowCount)
    (orientation : Orientation)
    (x y : F) :
    (slot.bounds orientation rowCount).Covers x y ↔
      InPart slot.columns slot.column (orientation.along x y) ∧
        InPart rowCount (orientation.strip rowCount slot.row) (orientation.across x y) := by
  rw [bounds_eq_tile columnWithin rowWithin, Orientation.along, Orientation.across]
  split
  · rw [Rect.covers_tile_iff, and_comm]
  · rw [Rect.covers_tile_iff]

end Slot

namespace Layout

theorem columns_pos_of_mem_drawnRows
    {layout : Layout}
    {row : Row}
    (member : row ∈ layout.drawnRows) :
    0 < row.columns.toNat := by
  obtain ⟨-, positive⟩ := List.mem_filter.mp member
  exact UInt64.lt_iff_toNat_lt.mp (of_decide_eq_true positive)

theorem drawnRows_ne_nil
    {layout : Layout}
    (drawn : ∃ row ∈ layout.rows, row.columns ≠ 0) :
    layout.drawnRows ≠ [] := by
  obtain ⟨row, member, nonzero⟩ := drawn
  have positive : 0 < row.columns := UInt64.pos_iff_ne_zero.mpr nonzero
  exact List.ne_nil_of_mem (List.mem_filter.mpr ⟨member, decide_eq_true positive⟩)

variable {F : Type*} [Field F] [LinearOrder F] [IsStrictOrderedRing F]

/-- Some cell covers a point of the unit square. -/
theorem exists_slot_covers
    {layout : Layout}
    {x y : F}
    (drawn : layout.drawnRows ≠ [])
    (xInside : 0 ≤ x ∧ x < 1)
    (yInside : 0 ≤ y ∧ y < 1) :
    ∃ slot ∈ layout.slots,
      (slot.bounds layout.orientation layout.drawnRows.length).Covers x y := by
  have acrossInside :
      0 ≤ layout.orientation.across x y ∧ layout.orientation.across x y < 1 := by
    unfold Orientation.across
    split
    · exact xInside
    · exact yInside
  have alongInside :
      0 ≤ layout.orientation.along x y ∧ layout.orientation.along x y < 1 := by
    unfold Orientation.along
    split
    · exact yInside
    · exact xInside
  -- Rows may differ in their columns, so the row has to be found first.
  obtain ⟨strip, stripWithin, inStrip⟩ :=
    exists_inPart (List.length_pos_iff.mpr drawn) acrossInside.1 acrossInside.2
  have rowWithin := Orientation.strip_lt stripWithin layout.orientation
  have positive : 0 < (layout.drawnRows[layout.orientation.strip _ strip]).columns.toNat :=
    columns_pos_of_mem_drawnRows (List.getElem_mem rowWithin)
  obtain ⟨column, columnWithin, inColumn⟩ :=
    exists_inPart positive alongInside.1 alongInside.2
  refine
    ⟨{ row := layout.orientation.strip layout.drawnRows.length strip
       column := column
       columns := _
       mode := _ },
      mem_slots_iff.mpr
        ⟨_, List.getElem?_eq_getElem rowWithin, columnWithin, rfl, rfl⟩, ?_⟩
  rw [Slot.covers_bounds_iff columnWithin rowWithin]
  refine ⟨inColumn, ?_⟩
  rw [Orientation.strip_strip stripWithin]
  exact inStrip

/-- Cells that cover the same point are the same column of the same row. -/
theorem same_row_column_of_covers
    {layout : Layout}
    {first second : Slot}
    {x y : F}
    (firstMember : first ∈ layout.slots)
    (secondMember : second ∈ layout.slots)
    (firstCovers :
      (first.bounds layout.orientation layout.drawnRows.length).Covers x y)
    (secondCovers :
      (second.bounds layout.orientation layout.drawnRows.length).Covers x y) :
    first.row = second.row ∧ first.column = second.column := by
  have firstRowWithin := row_lt_of_mem_slots firstMember
  have secondRowWithin := row_lt_of_mem_slots secondMember
  have firstColumnWithin := column_lt_of_mem_slots firstMember
  have secondColumnWithin := column_lt_of_mem_slots secondMember
  rw [Slot.covers_bounds_iff firstColumnWithin firstRowWithin] at firstCovers
  rw [Slot.covers_bounds_iff secondColumnWithin secondRowWithin] at secondCovers
  have sameStrip :=
    firstCovers.2.unique (Nat.zero_lt_of_lt firstRowWithin) secondCovers.2
  have sameRow : first.row = second.row := by
    rw [← Orientation.strip_strip firstRowWithin layout.orientation, sameStrip,
      Orientation.strip_strip secondRowWithin]
  have sameColumns := columns_eq_of_mem_slots firstMember secondMember sameRow
  rw [← sameColumns] at secondCovers
  exact
    ⟨sameRow, firstCovers.1.unique (Nat.zero_lt_of_lt firstColumnWithin) secondCovers.1⟩

end Layout

namespace Surface

/--
The regions of a divided surface lie in the unit square, and each point of the
square that is not on its right or upper edge lies in exactly one of them.
-/
theorem divide_tiles
    {layout : Layout}
    (drawn : ∃ row ∈ layout.rows, row.columns ≠ 0)
    (surface : Surface Rat)
    (margin : Rat) :
    (∀ region ∈ (surface.divide margin layout).1.regions, region.bounds.InUnit) ∧
      ∀ (F : Type) [Field F] [LinearOrder F] [IsStrictOrderedRing F] (x y : F),
        0 ≤ x ∧ x < 1 →
        0 ≤ y ∧ y < 1 →
        ∃! place : Nat,
          ∃ region,
            (surface.divide margin layout).1.regions[place]? = some region ∧
              region.bounds.Covers x y := by
  constructor
  · intro region member
    obtain ⟨place, found⟩ := List.mem_iff_getElem?.mp member
    obtain ⟨slot, slotFound, sameBounds⟩ := Layout.exists_slot_of_getElem?_regions found
    have slotMember := List.mem_of_getElem? slotFound
    rw [sameBounds]
    exact
      Slot.inUnit_bounds (Layout.column_lt_of_mem_slots slotMember)
        (Layout.row_lt_of_mem_slots slotMember) layout.orientation
  · intro F _ _ _ x y xInside yInside
    obtain ⟨slot, member, covers⟩ :=
      Layout.exists_slot_covers (Layout.drawnRows_ne_nil drawn) xInside yInside
    obtain ⟨place, found⟩ := List.mem_iff_getElem?.mp member
    obtain ⟨region, regionFound, sameBounds⟩ :=
      Layout.exists_region_of_getElem?_slots found margin
    refine ⟨place, ⟨region, regionFound, sameBounds ▸ covers⟩, ?_⟩
    rintro other ⟨otherRegion, otherRegionFound, otherCovers⟩
    obtain ⟨otherSlot, otherFound, otherBounds⟩ :=
      Layout.exists_slot_of_getElem?_regions otherRegionFound
    rw [otherBounds] at otherCovers
    obtain ⟨sameRow, sameColumn⟩ :=
      Layout.same_row_column_of_covers (List.mem_of_getElem? otherFound) member otherCovers
        covers
    exact Layout.place_eq_of_same_row_column otherFound found sameRow sameColumn

/-- Three strips beside each other, of which the middle one is not drawn. -/
def sampleLayout : Layout where
  orientation := .vertical
  rows := [⟨1, none⟩, ⟨0, some .top⟩, ⟨3, some .middle⟩]

theorem exists_region_sampleLayout :
    ∃! place : Nat,
      ∃ region,
        ((Surface.named "canvas").divide (1 / 10 : Rat) sampleLayout).1.regions[place]? =
            some region ∧
          region.bounds.Covers (1 / 2 : Rat) (2 / 3 : Rat) := by
  have drawn : ∃ row ∈ sampleLayout.rows, row.columns ≠ 0 := by decide
  exact
    (divide_tiles drawn (Surface.named "canvas") (1 / 10)).2 Rat (1 / 2) (2 / 3)
      ⟨by decide +kernel, by decide +kernel⟩ ⟨by decide +kernel, by decide +kernel⟩

end Surface

end PlotBoard
