import PlotBoard.Proofs.Layout.Numbering
import PlotBoard.Proofs.Layout.Tiling

namespace PlotBoard

/-!
# Neighbours in a row

The sides that a cell of a middle row gives up are told from its column alone, and
its rectangle is made without regard to them. Both fit together: a side is given up
exactly where a whole side of another cell of the row lies against it. A lone cell of
a middle row opens to the rows before and after it instead, and in the other modes
every cell gives up the one side that the mode names.
-/

/-- A side of a rectangle. -/
inductive Side where
  | top
  | bottom
  | left
  | right
  deriving DecidableEq

/-- The side across the rectangle. -/
def Side.opposite : Side → Side
  | .top => .bottom
  | .bottom => .top
  | .left => .right
  | .right => .left

@[simp] theorem Side.opposite_opposite (side : Side) : side.opposite.opposite = side := by
  cases side <;> rfl

theorem Side.opposite_eq_iff {side other : Side} :
    side.opposite = other ↔ side = other.opposite := by
  cases side <;> cases other <;> decide

/-- The side is one of the chosen ones. -/
def Sides.has (sides : Sides) : Side → Bool
  | .top => sides.top
  | .bottom => sides.bottom
  | .left => sides.left
  | .right => sides.right

/-- The side that a mode names; the middle mode names none. -/
def MarginMode.side? : MarginMode → Option Side
  | .middle => none
  | .top => some .top
  | .bottom => some .bottom
  | .left => some .left
  | .right => some .right

namespace Orientation

/-- The side on which a row goes on. -/
def onward (orientation : Orientation) : Side :=
  if orientation.isVertical then .top else .right

/-- The side on which the next row stands. -/
def toNextRow (orientation : Orientation) : Side :=
  if orientation.isVertical then .right else .bottom

end Orientation

theorem Side.forall_iff {statement : Side → Prop} :
    (∀ side, statement side) ↔
      statement .top ∧ statement .bottom ∧ statement .left ∧ statement .right := by
  constructor
  · intro all
    exact ⟨all .top, all .bottom, all .left, all .right⟩
  · rintro ⟨top, bottom, left, right⟩ side
    cases side <;> assumption

namespace Rect

/-- The coordinate of the edge on a side. -/
def edge {K : Type} (rect : Rect K) : Side → K
  | .top => rect.top
  | .bottom => rect.bottom
  | .left => rect.left
  | .right => rect.right

/-- The other rectangle begins on the line on which this one ends. -/
def Faces (rect : Rect Rat) (side : Side) (other : Rect Rat) : Prop :=
  other.edge side.opposite = rect.edge side

/-- The other rectangle lies against the whole side, and both extend equally along it. -/
def Touches (rect : Rect Rat) (side : Side) (other : Rect Rat) : Prop :=
  rect.Faces side other ∧
    ∀ across : Side,
      across ≠ side →
      across ≠ side.opposite →
      other.edge across = rect.edge across

theorem Faces.opposite
    {rect other : Rect Rat}
    {side : Side}
    (faces : rect.Faces side other) :
    other.Faces side.opposite rect := by
  rw [Faces, Side.opposite_opposite]
  exact faces.symm

theorem touches_iff
    {rect other : Rect Rat}
    {side : Side} :
    rect.Touches side other ↔
      match side with
      | .top => other.bottom = rect.top ∧ other.left = rect.left ∧ other.right = rect.right
      | .bottom => other.top = rect.bottom ∧ other.left = rect.left ∧ other.right = rect.right
      | .left => other.right = rect.left ∧ other.top = rect.top ∧ other.bottom = rect.bottom
      | .right => other.left = rect.right ∧ other.top = rect.top ∧ other.bottom = rect.bottom := by
  cases side <;> simp [Touches, Faces, Side.forall_iff, Side.opposite, edge]

end Rect

/-- Parts of equal length begin at the same number only if they are the same part. -/
theorem part_eq_part_iff
    {count first second : Nat}
    (positive : 0 < count) :
    (first : Rat) / count = (second : Rat) / count ↔ first = second := by
  have nonzero : (count : Rat) ≠ 0 := Nat.cast_ne_zero.mpr positive.ne'
  rw [div_left_inj' nonzero, Nat.cast_inj]

namespace Rect

/-- Cells of a grid touch if one stands next to the other in its row or in its column. -/
theorem touches_tile_iff
    {columns column otherColumn rows row otherRow : Nat}
    (columnsPositive : 0 < columns)
    (rowsPositive : 0 < rows)
    {side : Side} :
    (tile columns column rows row).Touches side (tile columns otherColumn rows otherRow) ↔
      match side with
      | .top => otherRow = row + 1 ∧ otherColumn = column
      | .bottom => otherRow + 1 = row ∧ otherColumn = column
      | .left => otherColumn + 1 = column ∧ otherRow = row
      | .right => otherColumn = column + 1 ∧ otherRow = row := by
  rw [touches_iff]
  cases side <;>
    simp only [tile, part_eq_part_iff columnsPositive, part_eq_part_iff rowsPositive] <;>
      omega

end Rect

namespace Slot

/-- In a middle row of several cells the sides before the first and after the last one stay. -/
theorem has_suppressed_iff_of_several
    {slot : Slot}
    (middle : slot.mode = some .middle)
    (several : 2 ≤ slot.columns)
    (orientation : Orientation)
    (side : Side) :
    (slot.suppressed orientation).has side = true ↔
      (side = orientation.onward ∧ slot.column + 1 ≠ slot.columns) ∨
        (side = orientation.onward.opposite ∧ slot.column ≠ 0) := by
  have notLone : slot.columns ≠ 1 := by omega
  cases vertical : orientation.isVertical <;>
    cases side <;>
      simp [suppressed, middle, notLone, vertical, Orientation.onward, Side.opposite, Sides.has]

/-- A lone cell of a middle row opens to the rows before and after it. -/
theorem has_suppressed_iff_of_lone
    {slot : Slot}
    (middle : slot.mode = some .middle)
    (lone : slot.columns = 1)
    (orientation : Orientation)
    (side : Side) :
    (slot.suppressed orientation).has side = true ↔
      side = orientation.toNextRow ∨ side = orientation.toNextRow.opposite := by
  cases vertical : orientation.isVertical <;>
    cases side <;>
      simp [suppressed, middle, lone, vertical, Orientation.toNextRow, Side.opposite, Sides.has]

/-- A mode that names a side takes that side from every cell. -/
theorem has_suppressed_iff_of_side
    {slot : Slot}
    {mode : MarginMode}
    {named : Side}
    (chosen : slot.mode = some mode)
    (names : mode.side? = some named)
    (orientation : Orientation)
    (side : Side) :
    (slot.suppressed orientation).has side = true ↔ side = named := by
  cases mode <;> simp only [MarginMode.side?, Option.some.injEq, reduceCtorEq] at names
  all_goals
    subst named
    cases side <;> simp [suppressed, chosen, Sides.has]

theorem has_suppressed_of_no_mode
    {slot : Slot}
    (noMode : slot.mode = none)
    (orientation : Orientation)
    (side : Side) :
    (slot.suppressed orientation).has side = false := by
  cases side <;> simp [suppressed, noMode, Sides.has]

/-- Cells of one row touch if one is the next column of the other. -/
theorem touches_bounds_iff
    {slot other : Slot}
    {rowCount : Nat}
    (columnWithin : slot.column < slot.columns)
    (otherWithin : other.column < other.columns)
    (rowWithin : slot.row < rowCount)
    (sameRow : other.row = slot.row)
    (sameColumns : other.columns = slot.columns)
    (orientation : Orientation)
    (side : Side) :
    (slot.bounds orientation rowCount : Rect Rat).Touches side
        (other.bounds orientation rowCount) ↔
      (side = orientation.onward ∧ other.column = slot.column + 1) ∨
        (side = orientation.onward.opposite ∧ other.column + 1 = slot.column) := by
  have columnsPositive := Nat.zero_lt_of_lt columnWithin
  have rowsPositive := Nat.zero_lt_of_lt rowWithin
  rw [bounds_eq_tile columnWithin rowWithin,
    bounds_eq_tile otherWithin (sameRow ▸ rowWithin), sameRow, sameColumns]
  cases vertical : orientation.isVertical
  · simp only [vertical, Bool.false_eq_true, ↓reduceIte, Orientation.onward]
    rw [Rect.touches_tile_iff columnsPositive rowsPositive]
    cases side <;> simp [Side.opposite]
  · simp only [vertical, ↓reduceIte, Orientation.onward]
    rw [Rect.touches_tile_iff rowsPositive columnsPositive]
    cases side <;> simp [Side.opposite]

/-- The next row begins where a row ends. -/
theorem faces_bounds_of_next_row
    {slot other : Slot}
    {rowCount : Nat}
    (columnWithin : slot.column < slot.columns)
    (otherWithin : other.column < other.columns)
    (nextRow : other.row = slot.row + 1)
    (rowWithin : other.row < rowCount)
    (orientation : Orientation) :
    (slot.bounds orientation rowCount : Rect Rat).Faces orientation.toNextRow
      (other.bounds orientation rowCount) := by
  have slotRowWithin : slot.row < rowCount := by omega
  rw [bounds_eq_tile columnWithin slotRowWithin, bounds_eq_tile otherWithin rowWithin, nextRow]
  cases vertical : orientation.isVertical
  · have stripAbove : rowCount - 1 - (slot.row + 1) + 1 = rowCount - 1 - slot.row := by omega
    simp only [vertical, Bool.false_eq_true, ↓reduceIte, Orientation.toNextRow,
      Orientation.strip, Rect.Faces, Side.opposite, Rect.edge, Rect.tile, stripAbove]
  · simp only [vertical, ↓reduceIte, Orientation.toNextRow, Orientation.strip, Rect.Faces,
      Side.opposite, Rect.edge, Rect.tile]

end Slot

/-- The sides that a region of a drawn row gives up, told by the regions beside it. -/
structure Region.GivesUp
    (region : Region Rat)
    (orientation : Orientation)
    (row : Row)
    (regions : List (Region Rat)) :
    Prop where
  /-- Without a mode no side is given up. -/
  of_no_mode : row.mode = none → ∀ side, region.suppressed.has side = false
  /-- A mode that names a side takes exactly that side. -/
  of_named_side : ∀ mode named,
    row.mode = some mode →
    mode.side? = some named →
    ∀ side, region.suppressed.has side = true ↔ side = named
  /-- A lone cell of a middle row gives up the sides of the rows before and after it. -/
  of_lone : row.mode = some .middle → row.columns = 1 → ∀ side,
    region.suppressed.has side = true ↔
      side = orientation.toNextRow ∨ side = orientation.toNextRow.opposite
  next_row : ∀ other ∈ regions,
    other.row = region.row + 1 →
    region.bounds.Faces orientation.toNextRow other.bounds
  previous_row : ∀ other ∈ regions,
    other.row + 1 = region.row →
    region.bounds.Faces orientation.toNextRow.opposite other.bounds
  /-- Several cells of a middle row give up the sides that another one of them touches. -/
  of_several : row.mode = some .middle → 2 ≤ row.columns.toNat → ∀ side,
    region.suppressed.has side = true ↔
      ∃ other ∈ regions,
        other ≠ region ∧ other.row = region.row ∧ region.bounds.Touches side other.bounds

namespace Layout

/-- In a middle row of several cells a side is given up exactly if another cell touches it. -/
theorem has_suppressed_iff_exists_touching
    {layout : Layout}
    {margin : Rat}
    {slot : Slot}
    {place : Nat}
    (found : layout.slots[place]? = some slot)
    (middle : slot.mode = some .middle)
    (several : 2 ≤ slot.columns)
    (side : Side) :
    (slot.suppressed layout.orientation).has side = true ↔
      ∃ other ∈ layout.regions margin,
        other ≠ slot.region layout.orientation layout.drawnRows.length margin place ∧
          other.row = slot.row ∧
          (slot.bounds layout.orientation layout.drawnRows.length).Touches side
            other.bounds := by
  have member := List.mem_of_getElem? found
  have columnWithin := column_lt_of_mem_slots member
  have rowWithin := row_lt_of_mem_slots member
  rw [Slot.has_suppressed_iff_of_several middle several]
  constructor
  · intro givenUp
    -- The side looks to the column after or before this one, which the row has.
    have neighbour : ∃ other ∈ layout.slots,
        other.row = slot.row ∧
          ((side = layout.orientation.onward ∧ other.column = slot.column + 1) ∨
            (side = layout.orientation.onward.opposite ∧ other.column + 1 = slot.column)) := by
      rcases givenUp with ⟨isOnward, notLast⟩ | ⟨isBackward, notFirst⟩
      · exact
          ⟨{ slot with column := slot.column + 1 }, mem_slots_of_column member (by omega), rfl,
            Or.inl ⟨isOnward, rfl⟩⟩
      · exact
          ⟨{ slot with column := slot.column - 1 }, mem_slots_of_column member (by omega), rfl,
            Or.inr ⟨isBackward, Nat.sub_add_cancel (Nat.pos_of_ne_zero notFirst)⟩⟩
    obtain ⟨other, otherMember, sameRow, beside⟩ := neighbour
    obtain ⟨otherPlace, otherFound⟩ := List.mem_iff_getElem?.mp otherMember
    have otherWithin := column_lt_of_mem_slots otherMember
    have sameColumns := columns_eq_of_mem_slots otherMember member sameRow
    refine
      ⟨_, mem_regions_iff.mpr ⟨other, otherPlace, otherFound, rfl⟩, ?_, sameRow,
        (Slot.touches_bounds_iff columnWithin otherWithin rowWithin sameRow sameColumns
          layout.orientation side).mpr beside⟩
    intro same
    have sameColumn : other.column = slot.column := congrArg Region.column same
    omega
  · rintro ⟨region, regionMember, -, sameRow, touches⟩
    obtain ⟨other, otherPlace, otherFound, rfl⟩ := mem_regions_iff.mp regionMember
    have otherMember := List.mem_of_getElem? otherFound
    have otherWithin := column_lt_of_mem_slots otherMember
    have sameColumns := columns_eq_of_mem_slots otherMember member sameRow
    rcases (Slot.touches_bounds_iff columnWithin otherWithin rowWithin sameRow sameColumns
        layout.orientation side).mp touches with ⟨isOnward, next⟩ | ⟨isBackward, previous⟩
    · exact Or.inl ⟨isOnward, by omega⟩
    · exact Or.inr ⟨isBackward, by omega⟩

end Layout

namespace Surface

/--
Every region of a divided surface gives up the sides that its row asks for: none, the
one that the mode names, or in a middle row exactly the sides against which another
region of the row lies. A lone region of a middle row gives up the sides on which the
rows before and after it stand.
-/
theorem divide_givesUp
    (surface : Surface Rat)
    (margin : Rat)
    (layout : Layout) :
    ∀ region ∈ (surface.divide margin layout).1.regions,
      ∃ row,
        layout.drawnRows[region.row]? = some row ∧
          region.GivesUp layout.orientation row (surface.divide margin layout).1.regions := by
  intro region member
  rw [regions_divide] at member
  obtain ⟨slot, place, found, rfl⟩ := Layout.mem_regions_iff.mp member
  have slotMember := List.mem_of_getElem? found
  have columnWithin := Layout.column_lt_of_mem_slots slotMember
  obtain ⟨row, rowFound, -, sameColumns, sameMode⟩ := Layout.mem_slots_iff.mp slotMember
  refine
    ⟨row, rowFound,
      { of_no_mode := ?_
        of_named_side := ?_
        of_lone := ?_
        next_row := ?_
        previous_row := ?_
        of_several := ?_ }⟩
  · intro noMode
    exact Slot.has_suppressed_of_no_mode (sameMode.trans noMode) layout.orientation
  · intro mode named chosen names
    exact Slot.has_suppressed_iff_of_side (sameMode.trans chosen) names layout.orientation
  · intro middle lone
    have loneColumn : slot.columns = 1 := by
      rw [sameColumns, lone]
      rfl
    exact Slot.has_suppressed_iff_of_lone (sameMode.trans middle) loneColumn layout.orientation
  · intro other otherMember nextRow
    obtain ⟨otherSlot, otherPlace, otherFound, rfl⟩ := Layout.mem_regions_iff.mp otherMember
    have otherSlotMember := List.mem_of_getElem? otherFound
    exact
      Slot.faces_bounds_of_next_row columnWithin
        (Layout.column_lt_of_mem_slots otherSlotMember) nextRow
        (Layout.row_lt_of_mem_slots otherSlotMember) layout.orientation
  · intro other otherMember previousRow
    obtain ⟨otherSlot, otherPlace, otherFound, rfl⟩ := Layout.mem_regions_iff.mp otherMember
    have otherSlotMember := List.mem_of_getElem? otherFound
    have faces :=
      Slot.faces_bounds_of_next_row (Layout.column_lt_of_mem_slots otherSlotMember)
        columnWithin previousRow.symm (Layout.row_lt_of_mem_slots slotMember)
        layout.orientation
    exact faces.opposite
  · intro middle several
    exact
      Layout.has_suppressed_iff_exists_touching found (sameMode.trans middle)
        (sameColumns ▸ several)

/-- Rows of several cells, of a lone one and of cells that all give up the left side. -/
def mixedLayout : Layout where
  orientation := .vertical
  rows := [⟨3, some .middle⟩, ⟨1, some .middle⟩, ⟨2, some .left⟩]

def mixedRegions : List (Region Rat) :=
  ((Surface.named "canvas").divide (1 / 10) mixedLayout).1.regions

/-- The middle one of three stacked regions is touched from above, but not from the left. -/
theorem divide_givesUp_mixedLayout :
    ∃ region ∈ mixedRegions,
      region.column = 1 ∧
        region.suppressed = { top := true, bottom := true } ∧
        (∃ other ∈ mixedRegions,
          other ≠ region ∧ other.row = region.row ∧ region.bounds.Touches .top other.bounds) ∧
        ¬∃ other ∈ mixedRegions,
          other ≠ region ∧ other.row = region.row ∧ region.bounds.Touches .left other.bounds := by
  have listed : 1 < mixedRegions.length := by
    decide
  have member : mixedRegions[1] ∈ mixedRegions := List.getElem_mem listed
  have suppressed : mixedRegions[1].suppressed = { top := true, bottom := true } := rfl
  obtain ⟨row, found, givesUp⟩ :=
    divide_givesUp (Surface.named "canvas") (1 / 10) mixedLayout mixedRegions[1] member
  obtain rfl : ⟨3, some .middle⟩ = row := Option.some.inj found
  have shared := givesUp.of_several rfl (by decide)
  refine ⟨mixedRegions[1], member, rfl, suppressed, (shared .top).mp ?_, ?_⟩
  · rw [suppressed]
    rfl
  · exact mt (shared .left).mpr (by rw [suppressed]; decide)

end Surface

end PlotBoard
