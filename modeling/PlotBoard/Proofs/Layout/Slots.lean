import Mathlib.Data.List.Basic
import PlotBoard.Layout.Division

namespace PlotBoard

/-!
# Cells of a layout

The cells of a layout are the columns of its drawn rows. They are listed row by
row and from column to column, so that a row and a column name one place of the
list, and the regions of a divided surface stand at the same places.
-/

/-- The order in which cells are read. -/
def Slot.Before (first second : Slot) : Prop :=
  first.row < second.row ∨ (first.row = second.row ∧ first.column < second.column)

namespace Layout

/-- The listed cells are the columns of the drawn rows. -/
theorem mem_slots_iff
    {layout : Layout}
    {slot : Slot} :
    slot ∈ layout.slots ↔
      ∃ row,
        layout.drawnRows[slot.row]? = some row ∧
          slot.column < row.columns.toNat ∧
          slot.columns = row.columns.toNat ∧
          slot.mode = row.mode := by
  rw [slots, List.mem_flatMap]
  constructor
  · rintro ⟨⟨row, index⟩, indexed, member⟩
    obtain ⟨column, columnMember, rfl⟩ := List.mem_map.mp member
    exact
      ⟨row, List.mem_zipIdx_iff_getElem?.mp indexed, List.mem_range.mp columnMember, rfl, rfl⟩
  · rintro ⟨row, found, within, sameColumns, sameMode⟩
    refine
      ⟨(row, slot.row), List.mem_zipIdx_iff_getElem?.mpr found, List.mem_map.mpr
        ⟨slot.column, List.mem_range.mpr within, ?_⟩⟩
    rw [← sameColumns, ← sameMode]

theorem row_lt_of_mem_slots
    {layout : Layout}
    {slot : Slot}
    (member : slot ∈ layout.slots) :
    slot.row < layout.drawnRows.length := by
  obtain ⟨row, found, -⟩ := mem_slots_iff.mp member
  obtain ⟨below, -⟩ := List.getElem?_eq_some_iff.mp found
  exact below

theorem column_lt_of_mem_slots
    {layout : Layout}
    {slot : Slot}
    (member : slot ∈ layout.slots) :
    slot.column < slot.columns := by
  obtain ⟨row, -, within, sameColumns, -⟩ := mem_slots_iff.mp member
  rw [sameColumns]
  exact within

/-- Cells of one row have the same number of columns beside them. -/
theorem columns_eq_of_mem_slots
    {layout : Layout}
    {first second : Slot}
    (firstMember : first ∈ layout.slots)
    (secondMember : second ∈ layout.slots)
    (sameRow : first.row = second.row) :
    first.columns = second.columns := by
  obtain ⟨firstRow, firstFound, -, firstColumns, -⟩ := mem_slots_iff.mp firstMember
  obtain ⟨secondRow, secondFound, -, secondColumns, -⟩ := mem_slots_iff.mp secondMember
  rw [sameRow, secondFound] at firstFound
  obtain rfl := Option.some.inj firstFound
  rw [firstColumns, secondColumns]

theorem mode_eq_of_mem_slots
    {layout : Layout}
    {slot : Slot}
    {row : Row}
    (member : slot ∈ layout.slots)
    (found : layout.drawnRows[slot.row]? = some row) :
    slot.mode = row.mode := by
  obtain ⟨listed, listedFound, -, -, sameMode⟩ := mem_slots_iff.mp member
  obtain rfl := Option.some.inj (listedFound.symm.trans found)
  exact sameMode

/-- A row is listed with all of its columns. -/
theorem mem_slots_of_column
    {layout : Layout}
    {slot : Slot}
    (member : slot ∈ layout.slots)
    {column : Nat}
    (within : column < slot.columns) :
    { slot with column := column } ∈ layout.slots := by
  obtain ⟨row, found, -, sameColumns, sameMode⟩ := mem_slots_iff.mp member
  exact mem_slots_iff.mpr ⟨row, found, sameColumns ▸ within, sameColumns, sameMode⟩

theorem pairwise_slots (layout : Layout) :
    layout.slots.Pairwise Slot.Before := by
  rw [slots, List.pairwise_flatMap]
  constructor
  · rintro ⟨row, index⟩ _
    rw [List.pairwise_map]
    exact List.pairwise_lt_range.imp fun below => Or.inr ⟨rfl, below⟩
  · have rising : (layout.drawnRows.zipIdx.map Prod.snd).Pairwise (· < ·) := by
      rw [List.zipIdx_map_snd]
      exact List.pairwise_lt_range'
    rw [List.pairwise_map] at rising
    refine rising.imp ?_
    intro first second below slot member later laterMember
    obtain ⟨column, -, rfl⟩ := List.mem_map.mp member
    obtain ⟨laterColumn, -, rfl⟩ := List.mem_map.mp laterMember
    exact Or.inl below

/-- A row and a column name at most one place of the list. -/
theorem place_eq_of_same_row_column
    {layout : Layout}
    {first second : Slot}
    {place other : Nat}
    (found : layout.slots[place]? = some first)
    (otherFound : layout.slots[other]? = some second)
    (sameRow : first.row = second.row)
    (sameColumn : first.column = second.column) :
    place = other := by
  obtain ⟨below, rfl⟩ := List.getElem?_eq_some_iff.mp found
  obtain ⟨otherBelow, rfl⟩ := List.getElem?_eq_some_iff.mp otherFound
  have ordered := List.pairwise_iff_getElem.mp layout.pairwise_slots
  rcases Nat.lt_trichotomy place other with earlier | same | later
  · rcases ordered place other below otherBelow earlier with rowBelow | ⟨-, columnBelow⟩
    · exact absurd sameRow (Nat.ne_of_lt rowBelow)
    · exact absurd sameColumn (Nat.ne_of_lt columnBelow)
  · exact same
  · rcases ordered other place otherBelow below later with rowBelow | ⟨-, columnBelow⟩
    · exact absurd sameRow (Nat.ne_of_gt rowBelow)
    · exact absurd sameColumn (Nat.ne_of_gt columnBelow)

end Layout

variable {K : Type} [Scalar K]

/-- The region that a cell becomes at a place of the list. -/
def Slot.region
    (slot : Slot)
    (orientation : Orientation)
    (rowCount : Nat)
    (margin : K)
    (place : Nat) :
    Region K where
  number := place + 1
  name := s!"pad{place}"
  bounds := slot.bounds orientation rowCount
  row := slot.row
  column := slot.column
  suppressed := slot.suppressed orientation
  margins := (Margins.uniform margin).suppress (slot.suppressed orientation)

namespace Layout

/-- Regions are the cells with their places. -/
theorem regions_eq_map (layout : Layout) (margin : K) :
    layout.regions margin =
      layout.slots.zipIdx.map fun (slot, place) =>
        slot.region layout.orientation layout.drawnRows.length margin place :=
  rfl

theorem getElem?_regions
    (layout : Layout)
    (margin : K)
    (place : Nat) :
    (layout.regions margin)[place]? =
      layout.slots[place]?.map fun slot =>
        slot.region layout.orientation layout.drawnRows.length margin place := by
  rw [regions_eq_map, List.getElem?_map, List.getElem?_zipIdx, Option.map_map, Nat.zero_add]
  rfl

theorem mem_regions_iff
    {layout : Layout}
    {margin : K}
    {region : Region K} :
    region ∈ layout.regions margin ↔
      ∃ (slot : Slot) (place : Nat),
        layout.slots[place]? = some slot ∧
          region = slot.region layout.orientation layout.drawnRows.length margin place := by
  constructor
  · intro member
    obtain ⟨place, found⟩ := List.mem_iff_getElem?.mp member
    rw [getElem?_regions] at found
    obtain ⟨slot, slotFound, rfl⟩ := Option.map_eq_some_iff.mp found
    exact ⟨slot, place, slotFound, rfl⟩
  · rintro ⟨slot, place, found, rfl⟩
    apply List.mem_of_getElem? (i := place)
    rw [getElem?_regions, found, Option.map_some]

/-- What a region has from its cell alone is read off the cells in their order. -/
theorem map_regions
    {A : Type}
    {layout : Layout}
    {margin : K}
    {ofRegion : Region K → A}
    {ofSlot : Slot → A}
    (same : ∀ slot place,
      ofRegion (slot.region layout.orientation layout.drawnRows.length margin place) =
        ofSlot slot) :
    (layout.regions margin).map ofRegion = layout.slots.map ofSlot := by
  apply List.ext_getElem?
  intro place
  rw [List.getElem?_map, List.getElem?_map, getElem?_regions, Option.map_map]
  exact congrArg (Option.map · _) (funext fun slot => same slot place)

/-- A region stands where a cell stands, and has the bounds of the cell. -/
theorem exists_slot_of_getElem?_regions
    {layout : Layout}
    {margin : K}
    {place : Nat}
    {region : Region K}
    (found : (layout.regions margin)[place]? = some region) :
    ∃ slot,
      layout.slots[place]? = some slot ∧
        region.bounds = slot.bounds layout.orientation layout.drawnRows.length := by
  rw [getElem?_regions] at found
  obtain ⟨slot, slotFound, rfl⟩ := Option.map_eq_some_iff.mp found
  exact ⟨slot, slotFound, rfl⟩

theorem exists_region_of_getElem?_slots
    {layout : Layout}
    {place : Nat}
    {slot : Slot}
    (found : layout.slots[place]? = some slot)
    (margin : K) :
    ∃ region,
      (layout.regions margin)[place]? = some region ∧
        region.bounds = slot.bounds layout.orientation layout.drawnRows.length := by
  rw [getElem?_regions, found, Option.map_some]
  exact ⟨_, rfl, rfl⟩

end Layout

end PlotBoard
