import Mathlib.Algebra.GroupWithZero.Nat
import PlotBoard.Proofs.Layout.Slots

namespace PlotBoard

/-!
# Numbers of regions

A divided surface has as many regions as the rows of the layout have columns.
They are numbered from one in reading order, and each is found under its number.
Nothing else of the surface plays a part, and neither do rows without columns.
-/

/-- Adding up in 64 bits keeps the remainder of the sum. -/
theorem toNat_foldl_add
    (counts : List UInt64)
    (start : UInt64) :
    (counts.foldl (· + ·) start).toNat =
      (start.toNat + (counts.map UInt64.toNat).sum) % UInt64.size := by
  induction counts generalizing start with
  | nil =>
      rw [List.foldl_nil, List.map_nil, List.sum_nil, Nat.add_zero]
      exact (Nat.mod_eq_of_lt start.toNat_lt).symm
  | cons count counts inductionHypothesis =>
      rw [List.foldl_cons, inductionHypothesis, UInt64.toNat_add, List.map_cons, List.sum_cons,
        Nat.mod_add_mod, Nat.add_assoc]

namespace Layout

/-- The number of cells of all rows. -/
def columnTotal (layout : Layout) : Nat :=
  (layout.rows.map fun row => row.columns.toNat).sum

theorem toNat_regionCount (layout : Layout) :
    layout.regionCount.toNat = layout.columnTotal % UInt64.size := by
  rw [regionCount, toNat_foldl_add, UInt64.toNat_zero, Nat.zero_add, List.map_map]
  rfl

/-- Rows without columns have no cells, so the drawn rows have all of them. -/
theorem sum_columns_drawnRows (layout : Layout) :
    (layout.drawnRows.map fun row => row.columns.toNat).sum = layout.columnTotal := by
  rw [drawnRows, columnTotal]
  induction layout.rows with
  | nil => rfl
  | cons row rows inductionHypothesis =>
      by_cases drawn : 0 < row.columns
      · rw [List.filter_cons_of_pos (by simpa using drawn), List.map_cons, List.map_cons,
          List.sum_cons, List.sum_cons, inductionHypothesis]
      · have noColumns : row.columns.toNat = 0 := by
          rw [UInt64.pos_iff_ne_zero, not_not] at drawn
          rw [drawn, UInt64.toNat_zero]
        rw [List.filter_cons_of_neg (by simpa using drawn), inductionHypothesis, List.map_cons,
          List.sum_cons, noColumns, Nat.zero_add]

theorem length_slots (layout : Layout) :
    layout.slots.length = layout.columnTotal := by
  have rows : layout.drawnRows.zipIdx.map Prod.fst = layout.drawnRows :=
    List.zipIdx_map_fst 0 layout.drawnRows
  rw [← sum_columns_drawnRows, slots, List.length_flatMap]
  conv_rhs => rw [← rows, List.map_map]
  simp only [List.length_map, List.length_range]
  rfl

/-- The drawn rows are all that a layout contributes besides its orientation. -/
theorem regions_eq_of_drawnRows
    {K : Type}
    [Scalar K]
    {first second : Layout}
    (sameOrientation : first.orientation = second.orientation)
    (sameRows : first.drawnRows = second.drawnRows)
    (margin : K) :
    first.regions margin = second.regions margin := by
  rw [regions_eq_map, regions_eq_map, slots, slots, sameOrientation, sameRows]

theorem length_regions
    {K : Type}
    [Scalar K]
    (layout : Layout)
    (margin : K) :
    (layout.regions margin).length = layout.columnTotal := by
  rw [regions_eq_map, List.length_map, List.length_zipIdx, length_slots]

theorem drawnRows_filter_columns (layout : Layout) :
    drawnRows { layout with rows := layout.rows.filter fun row => row.columns ≠ 0 } =
      layout.drawnRows := by
  rw [drawnRows, drawnRows, List.filter_filter]
  apply List.filter_congr
  intro row _
  by_cases noColumns : row.columns = 0
  · simp [noColumns]
  · simp [noColumns]

end Layout

variable {K : Type} [Scalar K]

/-- The drawn row and the column of a region. -/
def Region.place (region : Region K) : Nat × Nat :=
  (region.row, region.column)

/-- Regions are listed in the order of the cells. -/
theorem Layout.map_place_regions (layout : Layout) (margin : K) :
    (layout.regions margin).map Region.place =
      layout.slots.map fun slot => (slot.row, slot.column) :=
  map_regions fun _ _ => rfl

namespace Surface

/-- The regions are the cells of a layout, numbered from one in reading order. -/
structure NumberedBy (surface : Surface K) (layout : Layout) : Prop where
  length_regions : surface.regions.length = layout.columnTotal
  region?_isSome_iff : ∀ number,
    (surface.region? number).isSome = true ↔ 1 ≤ number ∧ number ≤ layout.columnTotal
  region?_carries : ∀ number region,
    surface.region? number = some region →
      region.number = number ∧
        region.name = "pad" ++ toString (number - 1) ∧
        surface.regions[number - 1]? = some region
  places_ordered : (surface.regions.map Region.place).Pairwise (Prod.Lex (· < ·) (· < ·))
  mem_places_iff : ∀ row column,
    (row, column) ∈ surface.regions.map Region.place ↔
      ∃ drawn, layout.drawnRows[row]? = some drawn ∧ column < drawn.columns.toNat

@[simp] theorem regions_divide
    (surface : Surface K)
    (margin : K)
    (layout : Layout) :
    (surface.divide margin layout).1.regions = layout.regions margin :=
  rfl

theorem created_divide
    (surface : Surface K)
    (margin : K)
    (layout : Layout) :
    (surface.divide margin layout).2 = layout.columnTotal :=
  layout.length_regions margin

/-- On a divided surface the number of a region is its place in the list. -/
theorem region?_divide
    (surface : Surface K)
    (margin : K)
    (layout : Layout)
    (place : Nat) :
    (surface.divide margin layout).1.region? (place + 1) =
      (layout.regions margin)[place]? := by
  change ((layout.regions margin)[place]?.filter fun region => region.number = place + 1) = _
  rw [Layout.getElem?_regions]
  cases layout.slots[place]? with
  | none => rfl
  | some slot => simp [Slot.region]

theorem numberedBy_divide
    (surface : Surface K)
    (margin : K)
    (layout : Layout) :
    NumberedBy (surface.divide margin layout).1 layout where
  length_regions := by
    rw [divide, Layout.length_regions]
  region?_isSome_iff := by
    intro number
    cases number with
    | zero => simp [region?]
    | succ place =>
        rw [region?_divide, Option.isSome_iff_ne_none, Ne, List.getElem?_eq_none_iff,
          Layout.length_regions]
        omega
  region?_carries := by
    intro number region found
    cases number with
    | zero => cases found
    | succ place =>
        rw [region?_divide] at found
        have sameCell := found
        rw [Layout.getElem?_regions] at sameCell
        obtain ⟨slot, -, rfl⟩ := Option.map_eq_some_iff.mp sameCell
        exact ⟨rfl, rfl, found⟩
  places_ordered := by
    rw [regions_divide, Layout.map_place_regions, List.pairwise_map]
    exact layout.pairwise_slots.imp fun before => Prod.lex_def.mpr before
  mem_places_iff := by
    intro row column
    rw [regions_divide, Layout.map_place_regions, List.mem_map]
    constructor
    · rintro ⟨slot, member, isPlace⟩
      obtain ⟨rfl, rfl⟩ := Prod.mk.inj isPlace
      obtain ⟨drawn, found, within, -, -⟩ := Layout.mem_slots_iff.mp member
      exact ⟨drawn, found, within⟩
    · rintro ⟨drawn, found, within⟩
      exact
        ⟨{ row := row, column := column, columns := drawn.columns.toNat, mode := drawn.mode },
          Layout.mem_slots_iff.mpr ⟨drawn, found, within, rfl, rfl⟩, rfl⟩

/--
Dividing a surface creates as many regions as the rows have columns, which is also
what the 64-bit count of the layout says when it does not overflow. The regions are
numbered from one over the columns of the drawn rows, in reading order. They do not
depend on what the surface held before, nor on rows without columns; the surface
keeps its name and its bounds, and nothing is selected.
-/
theorem divide_numbers
    {layout : Layout}
    (fits : layout.columnTotal < UInt64.size)
    (surface : Surface K)
    (margin : K) :
    (surface.divide margin layout).2 = layout.columnTotal ∧
      (surface.divide margin layout).2 = layout.regionCount.toNat ∧
      NumberedBy (surface.divide margin layout).1 layout ∧
      (surface.divide margin layout).1.selection = none ∧
      (surface.divide margin layout).1.selected? = none ∧
      (surface.divide margin layout).1.name = surface.name ∧
      (surface.divide margin layout).1.bounds = surface.bounds ∧
      (∀ other : Surface K,
        (other.divide margin layout).1.regions = (surface.divide margin layout).1.regions) ∧
      (surface.divide margin
          { layout with rows := layout.rows.filter fun row => row.columns ≠ 0 }).1.regions =
        (surface.divide margin layout).1.regions := by
  have created := surface.created_divide margin layout
  have counted : layout.regionCount.toNat = layout.columnTotal := by
    rw [Layout.toNat_regionCount, Nat.mod_eq_of_lt fits]
  have sameRegions :
      Layout.regions { layout with rows := layout.rows.filter fun row => row.columns ≠ 0 } margin =
        layout.regions margin := by
    apply Layout.regions_eq_of_drawnRows
    · rfl
    · exact layout.drawnRows_filter_columns
  exact
    ⟨created, created.trans counted.symm, surface.numberedBy_divide margin layout, rfl, rfl, rfl,
      rfl, fun _ => rfl, sameRegions⟩

/-- A surface with a selected region that a division takes away. -/
def usedSurface : Surface Rat where
  name := "canvas"
  bounds := Rect.unit
  regions :=
    [ { number := 1
        name := "old"
        bounds := Rect.unit
        row := 4
        column := 2
        suppressed := { left := true }
        margins := Margins.uniform 0 } ]
  selection := some 1

/-- Two rows with a row without columns between them. -/
def interruptedLayout : Layout where
  orientation := .vertical
  rows := [⟨2, some .middle⟩, ⟨0, some .top⟩, ⟨1, none⟩]

theorem divide_usedSurface :
    interruptedLayout.columnTotal < UInt64.size ∧
      (usedSurface.divide (1 / 10) interruptedLayout).2 = 3 ∧
      NumberedBy (usedSurface.divide (1 / 10) interruptedLayout).1 interruptedLayout ∧
      (usedSurface.divide (1 / 10) interruptedLayout).1.selection = none := by
  have fits : interruptedLayout.columnTotal < UInt64.size := by
    decide
  obtain ⟨created, -, numbered, nothingSelected, -⟩ := divide_numbers fits usedSurface (1 / 10)
  exact ⟨fits, created, numbered, nothingSelected⟩

end Surface

end PlotBoard
