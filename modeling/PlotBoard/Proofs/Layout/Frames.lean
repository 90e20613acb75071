import Mathlib.Tactic.Linarith
import Mathlib.Tactic.Ring
import PlotBoard.Proofs.Layout.Neighbours
import PlotBoard.Proofs.Rect.Nesting
import PlotBoard.Settings.Basic

namespace PlotBoard

/-!
# Frames of a divided surface

The frame of a region is what its margins leave of its bounds. With a margin that the
settings accept the margins of opposite sides leave some room between them, so that a
frame is a proper rectangle inside the bounds. It reaches an edge of the bounds only
where the region gives up its margin, and two cells of a middle row that stand next to
each other meet there along the whole edge.
-/

namespace Settings

theorem acceptsMargin_iff {margin : Rat} :
    acceptsMargin margin = true ↔ 0 ≤ margin ∧ margin < 1 / 2 := by
  simp [acceptsMargin]

end Settings

namespace Margins

/-- The distance from a side. -/
def distance {K : Type} (margins : Margins K) : Side → K
  | .top => margins.top
  | .bottom => margins.bottom
  | .left => margins.left
  | .right => margins.right

/-- Each side keeps its distance from the opposite one. -/
structure LeaveRoom (margins : Margins Rat) : Prop where
  nonnegative : ∀ side, 0 ≤ margins.distance side
  add_opposite_lt : ∀ side, margins.distance side + margins.distance side.opposite < 1

theorem distance_suppress_uniform
    (margin : Rat)
    (sides : Sides)
    (side : Side) :
    ((uniform margin).suppress sides).distance side = if sides.has side then 0 else margin := by
  cases side <;> rfl

theorem leaveRoom_suppress_uniform
    {margin : Rat}
    (accepted : Settings.acceptsMargin margin = true)
    (sides : Sides) :
    ((uniform margin).suppress sides).LeaveRoom := by
  obtain ⟨nonnegative, belowHalf⟩ := Settings.acceptsMargin_iff.mp accepted
  have bounded : ∀ side,
      0 ≤ ((uniform margin).suppress sides).distance side ∧
        ((uniform margin).suppress sides).distance side < 1 / 2 := by
    intro side
    rw [distance_suppress_uniform]
    split
    · norm_num
    · exact ⟨nonnegative, belowHalf⟩
  refine ⟨fun side => (bounded side).1, ?_⟩
  intro side
  linarith [(bounded side).2, (bounded side.opposite).2]

end Margins

namespace Rect

/-- The rectangle has a positive width and a positive height. -/
structure Extended (rect : Rect Rat) : Prop where
  left_lt_right : rect.left < rect.right
  bottom_lt_top : rect.bottom < rect.top

/-- The inner rectangle reaches over no edge of the outer one. -/
structure Encloses (outer inner : Rect Rat) : Prop where
  left_le : outer.left ≤ inner.left
  right_le : inner.right ≤ outer.right
  bottom_le : outer.bottom ≤ inner.bottom
  top_le : inner.top ≤ outer.top

/-- The point lies in the rectangle and on none of its edges. -/
def Surrounds {F : Type*} [Field F] [LinearOrder F] (rect : Rect Rat) (x y : F) : Prop :=
  ((rect.left : F) < x ∧ x < (rect.right : F)) ∧ (rect.bottom : F) < y ∧ y < (rect.top : F)

theorem Extended.edge_opposite_ne
    {rect : Rect Rat}
    (extended : rect.Extended)
    (side : Side) :
    rect.edge side.opposite ≠ rect.edge side := by
  cases side with
  | top => exact extended.bottom_lt_top.ne
  | bottom => exact extended.bottom_lt_top.ne'
  | left => exact extended.left_lt_right.ne'
  | right => exact extended.left_lt_right.ne

theorem extended_tile
    {columns column rows row : Nat}
    (columnWithin : column < columns)
    (rowWithin : row < rows) :
    (tile columns column rows row).Extended := by
  have columnsPositive : (0 : Rat) < columns := Nat.cast_pos.mpr (Nat.zero_lt_of_lt columnWithin)
  have rowsPositive : (0 : Rat) < rows := Nat.cast_pos.mpr (Nat.zero_lt_of_lt rowWithin)
  exact
    ⟨div_lt_div_of_pos_right (Nat.cast_lt.mpr (Nat.lt_succ_self column)) columnsPositive,
      div_lt_div_of_pos_right (Nat.cast_lt.mpr (Nat.lt_succ_self row)) rowsPositive⟩

/-- What is surrounded by a rectangle is covered by every rectangle that encloses it. -/
theorem Encloses.covers_of_surrounds
    {F : Type*}
    [Field F]
    [LinearOrder F]
    [IsStrictOrderedRing F]
    {outer inner : Rect Rat}
    (encloses : outer.Encloses inner)
    {x y : F}
    (surrounds : inner.Surrounds x y) :
    outer.Covers x y := by
  obtain ⟨⟨aboveLeft, belowRight⟩, aboveBottom, belowTop⟩ := surrounds
  refine ⟨⟨?_, ?_⟩, ?_, ?_⟩
  · exact (Rat.cast_le.mpr encloses.left_le).trans aboveLeft.le
  · exact belowRight.trans_le (Rat.cast_le.mpr encloses.right_le)
  · exact (Rat.cast_le.mpr encloses.bottom_le).trans aboveBottom.le
  · exact belowTop.trans_le (Rat.cast_le.mpr encloses.top_le)

end Rect

namespace Region

/-- The margins, scaled to the bounds, lie between the edges of the bounds and of the frame. -/
theorem frame_eq
    {region : Region Rat}
    (extended : region.bounds.Extended)
    (room : region.margins.LeaveRoom) :
    region.frame =
      { left := region.bounds.left + region.margins.left * region.bounds.width
        bottom := region.bounds.bottom + region.margins.bottom * region.bounds.height
        right := region.bounds.left + (1 - region.margins.right) * region.bounds.width
        top := region.bounds.bottom + (1 - region.margins.top) * region.bounds.height } := by
  have leftFirst : region.margins.left ≤ 1 - region.margins.right :=
    le_sub_iff_add_le.mpr (room.add_opposite_lt .left).le
  have bottomFirst : region.margins.bottom ≤ 1 - region.margins.top :=
    le_sub_iff_add_le.mpr (room.add_opposite_lt .bottom).le
  have bounds : region.bounds.Ordered :=
    ⟨extended.left_lt_right.le, extended.bottom_lt_top.le⟩
  rw [frame, Margins.inside, Nat.cast_one, Rect.ofLines_of_le leftFirst bottomFirst]
  exact bounds.nest_eq ⟨leftFirst, bottomFirst⟩

/-- An edge of the frame, measured from the same edge of the bounds. -/
theorem edge_frame
    {region : Region Rat}
    (extended : region.bounds.Extended)
    (room : region.margins.LeaveRoom)
    (side : Side) :
    region.frame.edge side =
      region.bounds.edge side +
        region.margins.distance side *
          (region.bounds.edge side.opposite - region.bounds.edge side) := by
  rw [frame_eq extended room]
  cases side <;>
    simp only [Rect.edge, Side.opposite, Margins.distance, Rect.width, Rect.height] <;>
      ring

/-- A frame reaches an edge of the bounds exactly if it keeps no distance there. -/
theorem edge_frame_eq_iff
    {region : Region Rat}
    (extended : region.bounds.Extended)
    (room : region.margins.LeaveRoom)
    (side : Side) :
    region.frame.edge side = region.bounds.edge side ↔ region.margins.distance side = 0 := by
  have extent := sub_ne_zero.mpr (extended.edge_opposite_ne side)
  rw [edge_frame extended room, add_eq_left, mul_eq_zero, or_iff_left extent]

/-- A frame lies inside the bounds. -/
theorem encloses_frame
    {region : Region Rat}
    (extended : region.bounds.Extended)
    (room : region.margins.LeaveRoom) :
    region.bounds.Encloses region.frame := by
  have width := sub_nonneg.mpr extended.left_lt_right.le
  have height := sub_nonneg.mpr extended.bottom_lt_top.le
  have fromLeft := mul_nonneg (room.nonnegative .left) width
  have fromRight := mul_nonneg (room.nonnegative .right) width
  have fromBottom := mul_nonneg (room.nonnegative .bottom) height
  have fromTop := mul_nonneg (room.nonnegative .top) height
  have left := edge_frame extended room .left
  have right := edge_frame extended room .right
  have bottom := edge_frame extended room .bottom
  have top := edge_frame extended room .top
  simp only [Rect.edge, Side.opposite] at left right bottom top
  constructor <;> linarith

/-- The margins of opposite sides do not meet, so that something is left between them. -/
theorem extended_frame
    {region : Region Rat}
    (extended : region.bounds.Extended)
    (room : region.margins.LeaveRoom) :
    region.frame.Extended := by
  have across : ∀ side,
      region.frame.edge side.opposite - region.frame.edge side =
        (1 - (region.margins.distance side + region.margins.distance side.opposite)) *
          (region.bounds.edge side.opposite - region.bounds.edge side) := by
    intro side
    rw [edge_frame extended room, edge_frame extended room, Side.opposite_opposite]
    ring
  have remains : ∀ side,
      0 < 1 - (region.margins.distance side + region.margins.distance side.opposite) :=
    fun side => sub_pos.mpr (room.add_opposite_lt side)
  constructor
  · apply sub_pos.mp
    exact (across .left).symm ▸ mul_pos (remains .left) (sub_pos.mpr extended.left_lt_right)
  · apply sub_pos.mp
    exact (across .bottom).symm ▸ mul_pos (remains .bottom) (sub_pos.mpr extended.bottom_lt_top)

/-- Frames of touching bounds touch if they reach the shared edge and leave its ends alike. -/
theorem touches_frame
    {first second : Region Rat}
    {side : Side}
    (firstExtended : first.bounds.Extended)
    (firstRoom : first.margins.LeaveRoom)
    (secondExtended : second.bounds.Extended)
    (secondRoom : second.margins.LeaveRoom)
    (touches : first.bounds.Touches side second.bounds)
    (firstReaches : first.margins.distance side = 0)
    (secondReaches : second.margins.distance side.opposite = 0)
    (sameAcross : ∀ across : Side,
      across ≠ side →
      across ≠ side.opposite →
      second.margins.distance across = first.margins.distance across) :
    first.frame.Touches side second.frame := by
  obtain ⟨faces, sameExtent⟩ := touches
  constructor
  · calc
      second.frame.edge side.opposite = second.bounds.edge side.opposite :=
        (edge_frame_eq_iff secondExtended secondRoom _).mpr secondReaches
      _ = first.bounds.edge side := faces
      _ = first.frame.edge side :=
        ((edge_frame_eq_iff firstExtended firstRoom _).mpr firstReaches).symm
  · intro across notSide notOpposite
    have sameEdge := sameExtent across notSide notOpposite
    have oppositeNotSide : across.opposite ≠ side := mt Side.opposite_eq_iff.mp notOpposite
    have oppositeNotOpposite : across.opposite ≠ side.opposite := by
      rw [Ne, Side.opposite_eq_iff, Side.opposite_opposite]
      exact notSide
    have sameOpposite := sameExtent across.opposite oppositeNotSide oppositeNotOpposite
    rw [edge_frame firstExtended firstRoom, edge_frame secondExtended secondRoom, sameEdge,
      sameOpposite, sameAcross across notSide notOpposite]

end Region

/-- The coordinate that tells on which side of a line along a side a point lies. -/
def Point.toward {K : Type} (point : Point K) : Side → K
  | .top => point.y
  | .bottom => point.y
  | .left => point.x
  | .right => point.x

/-- Rectangles that touch have their common edge in common and nothing else. -/
theorem Rect.Touches.contains_iff
    {first second : Rect Rat}
    {side : Side}
    (touches : first.Touches side second)
    (firstExtended : first.Extended)
    (secondExtended : second.Extended)
    (point : Point Rat) :
    first.contains point = true ∧ second.contains point = true ↔
      first.contains point = true ∧ point.toward side = first.edge side := by
  have firstWidth := firstExtended.left_lt_right
  have firstHeight := firstExtended.bottom_lt_top
  have secondWidth := secondExtended.left_lt_right
  have secondHeight := secondExtended.bottom_lt_top
  rw [touches_iff] at touches
  simp only [contains, Bool.and_eq_true, decide_eq_true_eq]
  cases side
  all_goals
    obtain ⟨sameLine, sameFrom, sameTo⟩ := touches
    rw [sameLine, sameFrom, sameTo]
    simp only [Point.toward, edge]
    grind

namespace Slot

theorem extended_bounds
    {slot : Slot}
    {rowCount : Nat}
    (columnWithin : slot.column < slot.columns)
    (rowWithin : slot.row < rowCount)
    (orientation : Orientation) :
    (slot.bounds orientation rowCount).Extended := by
  have stripWithin := Orientation.strip_lt rowWithin orientation
  rw [bounds_eq_tile columnWithin rowWithin]
  split
  · exact Rect.extended_tile stripWithin columnWithin
  · exact Rect.extended_tile columnWithin stripWithin

/-- A region keeps the margin on exactly the sides that its cell does not give up. -/
theorem distance_region
    (slot : Slot)
    (orientation : Orientation)
    (rowCount : Nat)
    (margin : Rat)
    (place : Nat)
    (side : Side) :
    (slot.region orientation rowCount margin place).margins.distance side =
      if (slot.suppressed orientation).has side then 0 else margin :=
  Margins.distance_suppress_uniform margin (slot.suppressed orientation) side

/-- In a middle row of several cells a region keeps no distance from the regions beside it. -/
theorem distance_region_of_several
    {slot : Slot}
    (middle : slot.mode = some .middle)
    (several : 2 ≤ slot.columns)
    (orientation : Orientation)
    (rowCount : Nat)
    (margin : Rat)
    (place : Nat)
    (side : Side) :
    (slot.region orientation rowCount margin place).margins.distance side =
      if (side = orientation.onward ∧ slot.column + 1 ≠ slot.columns) ∨
          (side = orientation.onward.opposite ∧ slot.column ≠ 0) then
        0
      else
        margin := by
  simp only [distance_region, has_suppressed_iff_of_several middle several]

end Slot

/-- The frame of a region lies properly inside its bounds and reaches only given up sides. -/
structure Region.Framed (region : Region Rat) (margin : Rat) : Prop where
  encloses : region.bounds.Encloses region.frame
  width_pos : 0 < region.frame.width
  height_pos : 0 < region.frame.height
  edge_eq_iff : ∀ side,
    region.frame.edge side = region.bounds.edge side ↔
      region.suppressed.has side = true ∨ margin = 0

/-- The frames of two regions have an edge in common, the one that the bounds have in common. -/
structure Region.JoinedTo (first : Region Rat) (side : Side) (second : Region Rat) : Prop where
  bounds_touch : first.bounds.Touches side second.bounds
  frames_touch : first.frame.Touches side second.frame
  edge_eq : first.frame.edge side = first.bounds.edge side
  contains_iff : ∀ point : Point Rat,
    first.frame.contains point = true ∧ second.frame.contains point = true ↔
      first.frame.contains point = true ∧ point.toward side = first.frame.edge side

namespace Layout

variable {layout : Layout} {margin : Rat}

theorem extended_of_mem_regions
    {region : Region Rat}
    (member : region ∈ layout.regions margin) :
    region.bounds.Extended := by
  obtain ⟨slot, place, found, rfl⟩ := mem_regions_iff.mp member
  have slotMember := List.mem_of_getElem? found
  exact
    Slot.extended_bounds (column_lt_of_mem_slots slotMember) (row_lt_of_mem_slots slotMember)
      layout.orientation

theorem leaveRoom_of_mem_regions
    (accepted : Settings.acceptsMargin margin = true)
    {region : Region Rat}
    (member : region ∈ layout.regions margin) :
    region.margins.LeaveRoom := by
  obtain ⟨slot, place, -, rfl⟩ := mem_regions_iff.mp member
  exact Margins.leaveRoom_suppress_uniform accepted (slot.suppressed layout.orientation)

theorem framed_of_mem_regions
    (accepted : Settings.acceptsMargin margin = true)
    {region : Region Rat}
    (member : region ∈ layout.regions margin) :
    region.Framed margin := by
  have extended := extended_of_mem_regions member
  have room := leaveRoom_of_mem_regions accepted member
  have frameExtended := Region.extended_frame extended room
  refine
    { encloses := Region.encloses_frame extended room
      width_pos := sub_pos.mpr frameExtended.left_lt_right
      height_pos := sub_pos.mpr frameExtended.bottom_lt_top
      edge_eq_iff := ?_ }
  intro side
  obtain ⟨slot, place, -, rfl⟩ := mem_regions_iff.mp member
  rw [Region.edge_frame_eq_iff extended room, Slot.distance_region, ite_eq_left_iff,
    or_iff_not_imp_left]
  rfl

/-- A point that two frames surround would lie in the bounds of both regions. -/
theorem eq_of_frames_surround
    {F : Type*}
    [Field F]
    [LinearOrder F]
    [IsStrictOrderedRing F]
    (accepted : Settings.acceptsMargin margin = true)
    {first second : Region Rat}
    (firstMember : first ∈ layout.regions margin)
    (secondMember : second ∈ layout.regions margin)
    {x y : F}
    (firstSurrounds : first.frame.Surrounds x y)
    (secondSurrounds : second.frame.Surrounds x y) :
    first = second := by
  have firstCovers :=
    (framed_of_mem_regions accepted firstMember).encloses.covers_of_surrounds firstSurrounds
  have secondCovers :=
    (framed_of_mem_regions accepted secondMember).encloses.covers_of_surrounds secondSurrounds
  obtain ⟨slot, place, found, rfl⟩ := mem_regions_iff.mp firstMember
  obtain ⟨other, otherPlace, otherFound, rfl⟩ := mem_regions_iff.mp secondMember
  obtain ⟨sameRow, sameColumn⟩ :=
    same_row_column_of_covers (List.mem_of_getElem? found) (List.mem_of_getElem? otherFound)
      firstCovers secondCovers
  obtain rfl := place_eq_of_same_row_column found otherFound sameRow sameColumn
  obtain rfl := Option.some.inj (found.symm.trans otherFound)
  rfl

/-- Consecutive cells of a middle row give up the side between them and no side along it. -/
theorem joinedTo_of_consecutive
    (accepted : Settings.acceptsMargin margin = true)
    {first second : Region Rat}
    (firstMember : first ∈ layout.regions margin)
    (secondMember : second ∈ layout.regions margin)
    (sameRow : second.row = first.row)
    (nextColumn : second.column = first.column + 1)
    {row : Row}
    (rowFound : layout.drawnRows[first.row]? = some row)
    (middle : row.mode = some .middle) :
    first.JoinedTo layout.orientation.onward second := by
  have firstExtended := extended_of_mem_regions firstMember
  have secondExtended := extended_of_mem_regions secondMember
  have firstRoom := leaveRoom_of_mem_regions accepted firstMember
  have secondRoom := leaveRoom_of_mem_regions accepted secondMember
  obtain ⟨slot, place, found, rfl⟩ := mem_regions_iff.mp firstMember
  obtain ⟨other, otherPlace, otherFound, rfl⟩ := mem_regions_iff.mp secondMember
  have slotMember := List.mem_of_getElem? found
  have otherMember := List.mem_of_getElem? otherFound
  have columnWithin := column_lt_of_mem_slots slotMember
  have otherWithin := column_lt_of_mem_slots otherMember
  have consecutive : other.column = slot.column + 1 := nextColumn
  have sameColumns := columns_eq_of_mem_slots otherMember slotMember sameRow
  have several : 2 ≤ slot.columns := by omega
  have slotMiddle := (mode_eq_of_mem_slots slotMember rowFound).trans middle
  have otherRowFound : layout.drawnRows[other.row]? = some row :=
    (congrArg (layout.drawnRows[·]?) sameRow).trans rowFound
  have otherMiddle := (mode_eq_of_mem_slots otherMember otherRowFound).trans middle
  have distance :=
    Slot.distance_region_of_several slotMiddle several layout.orientation
      layout.drawnRows.length margin place
  have otherDistance :=
    Slot.distance_region_of_several otherMiddle (sameColumns ▸ several) layout.orientation
      layout.drawnRows.length margin otherPlace
  have touches :=
    (Slot.touches_bounds_iff columnWithin otherWithin (row_lt_of_mem_slots slotMember) sameRow
      sameColumns layout.orientation layout.orientation.onward).mpr (Or.inl ⟨rfl, consecutive⟩)
  have reaches := (distance _).trans (if_pos (Or.inl ⟨rfl, by omega⟩))
  have otherReaches := (otherDistance _).trans (if_pos (Or.inr ⟨rfl, by omega⟩))
  have framesTouch :=
    Region.touches_frame firstExtended firstRoom secondExtended secondRoom touches reaches
      otherReaches (by
        intro across notOnward notBackward
        rw [distance, otherDistance, if_neg (by simp [notOnward, notBackward]),
          if_neg (by simp [notOnward, notBackward])])
  exact
    { bounds_touch := touches
      frames_touch := framesTouch
      edge_eq := (Region.edge_frame_eq_iff firstExtended firstRoom _).mpr reaches
      contains_iff :=
        framesTouch.contains_iff (Region.extended_frame firstExtended firstRoom)
          (Region.extended_frame secondExtended secondRoom) }

end Layout

namespace Surface

/--
With a margin that the settings accept, the frame of every region of a divided surface
is a proper rectangle inside the bounds, which reaches an edge of the bounds exactly
where the region gives up its margin or there is none. Frames of different regions have
no inner point in common. Consecutive regions of a middle row meet exactly on the edge
that their bounds share: the right one of the first region, or the upper one when the
layout runs vertically.
-/
theorem divide_frames
    {margin : Rat}
    (accepted : Settings.acceptsMargin margin = true)
    (surface : Surface Rat)
    (layout : Layout) :
    (∀ region ∈ (surface.divide margin layout).1.regions, region.Framed margin) ∧
      (∀ first ∈ (surface.divide margin layout).1.regions,
        ∀ second ∈ (surface.divide margin layout).1.regions,
          first ≠ second →
          ∀ (F : Type) [Field F] [LinearOrder F] [IsStrictOrderedRing F] (x y : F),
            ¬(first.frame.Surrounds x y ∧ second.frame.Surrounds x y)) ∧
      ∀ first ∈ (surface.divide margin layout).1.regions,
        ∀ second ∈ (surface.divide margin layout).1.regions,
          second.row = first.row →
          second.column = first.column + 1 →
          ∀ row,
            layout.drawnRows[first.row]? = some row →
            row.mode = some .middle →
            first.JoinedTo (if layout.orientation = .vertical then .top else .right) second := by
  rw [regions_divide]
  refine ⟨?_, ?_, ?_⟩
  · intro region member
    exact Layout.framed_of_mem_regions accepted member
  · rintro first firstMember second secondMember different F _ _ _ x y ⟨inFirst, inSecond⟩
    exact
      different
        (Layout.eq_of_frames_surround accepted firstMember secondMember inFirst inSecond)
  · intro first firstMember second secondMember sameRow nextColumn row rowFound middle
    have joined :=
      Layout.joinedTo_of_consecutive accepted firstMember secondMember sameRow nextColumn
        rowFound middle
    simpa [Orientation.onward, Orientation.isVertical] using joined

/-- Two stacked regions join from below upward; neither frame runs into the one of another row. -/
theorem divide_frames_mixedLayout :
    Settings.acceptsMargin (1 / 10 : Rat) = true ∧
      ∃ first ∈ mixedRegions,
        ∃ second ∈ mixedRegions,
          ∃ third ∈ mixedRegions,
            first.Framed (1 / 10) ∧
              first.JoinedTo .top second ∧
              third.row ≠ first.row ∧
              ∀ x y : Rat, ¬(first.frame.Surrounds x y ∧ third.frame.Surrounds x y) := by
  have accepted : Settings.acceptsMargin (1 / 10 : Rat) = true := by
    decide +kernel
  have listed : mixedRegions.length = 6 := by
    decide
  have firstMember : mixedRegions[0] ∈ mixedRegions := List.getElem_mem (by omega)
  have secondMember : mixedRegions[1] ∈ mixedRegions := List.getElem_mem (by omega)
  have thirdMember : mixedRegions[3] ∈ mixedRegions := List.getElem_mem (by omega)
  have otherRow : mixedRegions[3].row ≠ mixedRegions[0].row := Nat.one_ne_zero
  obtain ⟨framed, apart, joined⟩ :=
    divide_frames accepted (Surface.named "canvas") mixedLayout
  refine
    ⟨accepted, _, firstMember, _, secondMember, _, thirdMember,
      framed _ firstMember, ?_, otherRow, ?_⟩
  · exact joined _ firstMember _ secondMember rfl rfl ⟨3, some .middle⟩ rfl rfl
  · intro x y
    exact apart _ firstMember _ thirdMember
      (fun same => otherRow (congrArg Region.row same).symm) Rat x y

end Surface

end PlotBoard
