import PlotBoard.Proofs.Histogram.Integral

namespace PlotBoard.Histogram

/-!
# Projections of projections

In exact arithmetic a projection of a projection is one projection of the source:
it keeps the axes that the second list picks from the first one. Going to another
order of all axes and back therefore gives the active contents again, and zero
everywhere else.
-/

variable {K C : Type} [Scalar K]

/-- The axes of the source that are kept when `next` is kept of what `keep` kept. -/
def keptOfKept (keep next : List Nat) : List Nat :=
  next.map fun place => keep[place]?.getD 0

theorem mem_keep_of_mem_keptOfKept
    {keep next : List Nat}
    {axis : Nat}
    (inRange : ∀ place ∈ next, place < keep.length)
    (member : axis ∈ keptOfKept keep next) :
    axis ∈ keep := by
  obtain ⟨place, placeMember, rfl⟩ := List.mem_map.mp member
  have below := inRange place placeMember
  rw [List.getElem?_eq_getElem below, Option.getD_some]
  exact List.getElem_mem below

theorem Keeps.keptOfKept
    {dimensions : Nat}
    {keep next : List Nat}
    (keeps : Keeps dimensions keep)
    (nextKeeps : Keeps keep.length next) :
    Keeps dimensions (keptOfKept keep next) := by
  constructor
  · intro axis member
    exact keeps.in_range axis (mem_keep_of_mem_keptOfKept nextKeeps.in_range member)
  · refine nextKeeps.distinct.map_on ?_
    intro first firstMember second secondMember same
    have firstBelow := nextKeeps.in_range first firstMember
    have secondBelow := nextKeeps.in_range second secondMember
    rw [List.getElem?_eq_getElem firstBelow, List.getElem?_eq_getElem secondBelow] at same
    exact (keeps.distinct.getElem_inj_iff).mp same

theorem keptBins_keptBins
    {keep next : List Nat}
    (inRange : ∀ place ∈ next, place < keep.length)
    (cell : List Nat) :
    keptBins next (keptBins keep cell) = keptBins (keptOfKept keep next) cell := by
  simp only [keptBins, keptOfKept, List.map_map]
  apply List.map_congr_left
  intro place member
  simp [inRange place member]

/-- All axes in their order keep the whole cell. -/
theorem keptBins_range (cell : List Nat) :
    keptBins (List.range cell.length) cell = cell := by
  apply List.ext_getElem
  · rw [keptBins, List.length_map, List.length_range]
  · intro place _ below
    simp [keptBins, below]

/-- Above an active cell of the source itself lies only the cell. -/
theorem cellsAbove_range
    {source : Histogram K C}
    {target : List Nat}
    (active : source.IsActiveCell target) :
    source.cellsAbove (List.range source.dimensions) target = [target] := by
  apply Grid.eq_of_pairwise_precedes (source.pairwise_cellsAbove _ _)
    (List.pairwise_singleton _ _)
  intro cell
  rw [cellsAbove, List.mem_filter, mem_activeCells_iff, decide_eq_true_eq, List.mem_singleton]
  constructor
  · rintro ⟨cellActive, kept⟩
    rw [dimensions, cellActive.length_eq, keptBins_range] at kept
    exact kept
  · rintro rfl
    refine ⟨active, ?_⟩
    rw [dimensions, active.length_eq, keptBins_range]

/-- Going to another order of all axes and back names every axis in its place. -/
theorem keptOfKept_inverse
    {dimensions : Nat}
    {keep next : List Nat}
    (allAxes : keep.Perm (List.range dimensions))
    (nextKeeps : Keeps keep.length next)
    (inverse : ∀ place axis : Nat, keep[place]? = some axis → next[axis]? = some place) :
    keptOfKept keep next = List.range dimensions := by
  have sameLength : keep.length = dimensions := by
    rw [allAxes.length_eq, List.length_range]
  have found : ∀ axis < dimensions, (keptOfKept keep next)[axis]? = some axis := by
    intro axis below
    have member : axis ∈ keep := allAxes.mem_iff.mpr (List.mem_range.mpr below)
    obtain ⟨place, placeFound⟩ := List.mem_iff_getElem?.mp member
    rw [keptOfKept, List.getElem?_map, inverse place axis placeFound, Option.map_some,
      placeFound, Option.getD_some]
  have notMore : (keptOfKept keep next).length ≤ dimensions := by
    rw [keptOfKept, List.length_map, ← sameLength]
    exact nextKeeps.length_le
  apply List.ext_getElem?
  intro axis
  rcases Nat.lt_or_ge axis dimensions with below | beyond
  · rw [found axis below, List.getElem?_range below]
  · rw [List.getElem?_eq_none (Nat.le_trans notMore beyond),
      List.getElem?_eq_none (by rw [List.length_range]; exact beyond)]

variable [Scalar C]

section Composed

variable
  {source middle result direct : Histogram K C}
  {keep next : List Nat}

theorem axes_eq_of_keptOfKept
    (inRange : ∀ place ∈ next, place < keep.length)
    (first : IsProjection source keep middle)
    (second : IsProjection middle next result)
    (atOnce : IsProjection source (keptOfKept keep next) direct) :
    result.axes = direct.axes := by
  apply map_some_injective
  rw [second.axes_eq, atOnce.axes_eq, keptOfKept, List.map_map]
  apply List.map_congr_left
  intro place member
  have below := inRange place member
  have found := congrArg (fun axes : List (Option (Axis K)) => axes[place]?) first.axes_eq
  simp only [List.getElem?_map, List.getElem?_eq_getElem below, Option.map_some] at found
  obtain ⟨axis, axisFound, sameAxis⟩ := Option.map_eq_some_iff.mp found
  rw [axisFound, Function.comp_apply, List.getElem?_eq_getElem below, Option.getD_some]
  exact sameAxis

/-- The cells above the cells above a cell are the cells above it at once. -/
theorem perm_cellsAbove
    (keeps : Keeps source.dimensions keep)
    (inRange : ∀ place ∈ next, place < keep.length)
    (first : IsProjection source keep middle)
    (target : List Nat) :
    ((middle.cellsAbove next target).flatMap (source.cellsAbove keep)).Perm
      (source.cellsAbove (keptOfKept keep next) target) := by
  -- Both lists name every cell once, but not in the same order.
  rw [List.perm_ext_iff_of_nodup
    (nodup_flatMap_cellsAbove (middle.nodup_cellsAbove next target))
    (source.nodup_cellsAbove _ target)]
  intro cell
  simp only [mem_flatMap_cellsAbove_iff, cellsAbove, List.mem_filter, mem_activeCells_iff,
    decide_eq_true_eq, keptBins_keptBins inRange]
  constructor
  · rintro ⟨active, -, kept⟩
    exact ⟨active, kept⟩
  · rintro ⟨active, kept⟩
    exact ⟨active, first.isActiveCell_keptBins keeps active, kept⟩

variable [Scalar.Exact C]

/-- Sums of sums over the cells above are sums over the cells above at once. -/
theorem content_eq_of_keptOfKept
    (keeps : Keeps source.dimensions keep)
    (nextKeeps : Keeps keep.length next)
    (first : IsProjection source keep middle)
    (second : IsProjection middle next result)
    (atOnce : IsProjection source (keptOfKept keep next) direct)
    (bins : List Nat) :
    result.content bins = direct.content bins := by
  have sameAxes := axes_eq_of_keptOfKept nextKeeps.in_range first second atOnce
  have middleKeeps : Keeps middle.dimensions next := by
    rw [first.dimensions_eq]
    exact nextKeeps
  -- Bins that are no cell hold zero in both histograms.
  by_cases isCell : result.IsCell bins
  · have directCell : direct.IsCell bins := by
      rw [IsCell, shape, ← sameAxes]
      exact isCell
    have areCells : ∀ cell ∈ middle.cellsAbove next bins, middle.IsCell cell := by
      intro cell member
      exact (mem_activeCells_iff.mp (List.mem_filter.mp member).1).isCell
    calc
      result.content bins = middle.sumOver (middle.cellsAbove next bins) :=
        second.content_eq_sumOver middleKeeps isCell
      _ = source.sumOver
            ((middle.cellsAbove next bins).flatMap (source.cellsAbove keep)) :=
        first.sumOver_eq keeps areCells
      _ = source.sumOver (source.cellsAbove (keptOfKept keep next) bins) :=
        Scalar.total_perm (perm_cellsAbove keeps nextKeeps.in_range first bins) source.content
      _ = direct.content bins :=
        (atOnce.content_eq_sumOver (keeps.keptOfKept nextKeeps) directCell).symm
  · have notDirectCell : ¬direct.IsCell bins := by
      rw [IsCell, shape, ← sameAxes]
      exact isCell
    rw [content_of_not_isCell isCell, content_of_not_isCell notDirectCell]

/-- A projection onto all axes in their order keeps the axes and the active contents. -/
theorem IsProjection.restores
    (isProjection : IsProjection source (List.range source.dimensions) direct) :
    direct.axes = source.axes ∧
      (∀ cell, source.IsActiveCell cell → direct.content cell = source.content cell) ∧
      ∀ cell, ¬source.IsActiveCell cell → direct.content cell = ((0 : Nat) : C) := by
  have sameAxes : direct.axes = source.axes := by
    apply map_some_injective
    rw [isProjection.axes_eq]
    apply List.ext_getElem
    · simp [dimensions]
    · intro place _ below
      simp [List.length_map] at below
      simp [below]
  have allKept : Keeps source.dimensions (List.range source.dimensions) :=
    ⟨fun axis member => List.mem_range.mp member, List.nodup_range⟩
  refine ⟨sameAxes, ?_, ?_⟩
  · intro cell active
    have isCell : direct.IsCell cell := by
      rw [IsCell, shape, sameAxes]
      exact active.isCell
    rw [isProjection.content_eq_sumOver allKept isCell, cellsAbove_range active]
    exact Scalar.total_singleton cell source.content
  · intro cell notActive
    apply isProjection.content_inactive
    rw [IsActiveCell, sameAxes]
    exact notActive

end Composed

/--
A projection of a projection has the axes, the title, the fills and all contents
of the projection onto the axes that the second list picks from the first one.
When the second list undoes a new order of all axes, the active contents stand
where they stood, and every other cell holds zero.
-/
theorem projection_projection
    [Scalar.Exact C]
    {source : Histogram K C}
    {keep next : List Nat}
    (keepNonempty : keep ≠ [])
    (keeps : Keeps source.dimensions keep)
    (nextNonempty : next ≠ [])
    (nextKeeps : Keeps keep.length next) :
    ∃ middle result direct,
      source.projection keep = .ok middle ∧
        middle.projection next = .ok result ∧
        source.projection (next.map fun place => keep[place]?.getD 0) = .ok direct ∧
        result.title = direct.title ∧
        result.entries = direct.entries ∧
        result.axes = direct.axes ∧
        (∀ bins, result.content bins = direct.content bins) ∧
        (keep.Perm (List.range source.dimensions) →
          (∀ place axis : Nat, keep[place]? = some axis → next[axis]? = some place) →
          result.title = source.title ∧
            result.entries = source.entries ∧
            result.axes = source.axes ∧
            (∀ cell, source.IsActiveCell cell → result.content cell = source.content cell) ∧
            ∀ cell, ¬source.IsActiveCell cell → result.content cell = ((0 : Nat) : C)) := by
  obtain ⟨middle, middleFound, first⟩ :=
    projection_of_keeps keepNonempty keeps.length_le keeps
  have middleKeeps : Keeps middle.dimensions next := by
    rw [first.dimensions_eq]
    exact nextKeeps
  obtain ⟨result, resultFound, second⟩ :=
    projection_of_keeps nextNonempty middleKeeps.length_le middleKeeps
  have bothKeep := keeps.keptOfKept nextKeeps
  have bothNonempty : keptOfKept keep next ≠ [] := by
    intro none
    exact nextNonempty (List.map_eq_nil_iff.mp none)
  obtain ⟨direct, directFound, atOnce⟩ :=
    projection_of_keeps bothNonempty bothKeep.length_le bothKeep
  have sameAxes := axes_eq_of_keptOfKept nextKeeps.in_range first second atOnce
  have sameContent := content_eq_of_keptOfKept keeps nextKeeps first second atOnce
  have sameTitle : result.title = source.title := second.title_eq.trans first.title_eq
  have sameEntries : result.entries = source.entries :=
    second.entries_eq.trans first.entries_eq
  refine
    ⟨middle, result, direct, middleFound, resultFound, directFound,
      sameTitle.trans atOnce.title_eq.symm, sameEntries.trans atOnce.entries_eq.symm,
      sameAxes, sameContent, ?_⟩
  intro allAxes inverse
  rw [keptOfKept_inverse allAxes nextKeeps inverse] at atOnce
  obtain ⟨axesRestored, activeRestored, restZero⟩ := atOnce.restores
  refine ⟨sameTitle, sameEntries, sameAxes.trans axesRestored, ?_, ?_⟩
  · intro cell active
    rw [sameContent, activeRestored cell active]
  · intro cell notActive
    rw [sameContent, restZero cell notActive]

/-- The axes of the sample change places and change back. -/
theorem sampleGrid_projection_projection :
    ∃ middle result,
      sampleGrid.projection [1, 0] = .ok middle ∧
        middle.projection [1, 0] = .ok result ∧
        ∀ cell, sampleGrid.IsActiveCell cell → result.content cell = sampleGrid.content cell := by
  have keeps : Keeps sampleGrid.dimensions [1, 0] := ⟨by decide, by decide⟩
  have inverse :
      ∀ place axis : Nat,
        ([1, 0] : List Nat)[place]? = some axis → ([1, 0] : List Nat)[axis]? = some place := by
    intro place axis found
    match place, found with
    | 0, rfl => rfl
    | 1, rfl => rfl
  obtain ⟨middle, result, -, first, second, -, -, -, -, -, restored⟩ :=
    projection_projection (by decide) keeps (by decide) keeps
  obtain ⟨-, -, -, activeRestored, -⟩ := restored (by decide) inverse
  exact ⟨middle, result, first, second, activeRestored⟩

end PlotBoard.Histogram
