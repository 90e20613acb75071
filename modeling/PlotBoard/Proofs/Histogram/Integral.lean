import Mathlib.Data.List.Nodup
import PlotBoard.Proofs.Histogram.Projection
import PlotBoard.Proofs.Number.Exact

namespace PlotBoard.Histogram

/-!
# Integrals of projections

The cells of a projection stand for disjoint groups of cells of the source. In
exact arithmetic the sum over some cells of a projection is therefore one sum
over the cells of the source above them. Every active cell of the source lies above
an active cell of the projection, so that the integral stays what it was.
-/

variable {K C : Type} [Scalar K]

/-- Groups above different cells have no cell in common. -/
theorem nodup_flatMap_cellsAbove
    {source : Histogram K C}
    {keep : List Nat}
    {targets : List (List Nat)}
    (distinct : targets.Nodup) :
    (targets.flatMap (source.cellsAbove keep)).Nodup := by
  rw [List.nodup_flatMap]
  constructor
  · intro target _
    exact source.nodup_cellsAbove keep target
  · refine distinct.imp fun different => ?_
    intro cell aboveFirst aboveSecond
    simp only [cellsAbove, List.mem_filter, decide_eq_true_eq] at aboveFirst aboveSecond
    exact different (aboveFirst.2.symm.trans aboveSecond.2)

theorem mem_flatMap_cellsAbove_iff
    {source : Histogram K C}
    {keep cell : List Nat}
    {targets : List (List Nat)} :
    cell ∈ targets.flatMap (source.cellsAbove keep) ↔
      source.IsActiveCell cell ∧ keptBins keep cell ∈ targets := by
  simp only [List.mem_flatMap, cellsAbove, List.mem_filter, decide_eq_true_eq,
    mem_activeCells_iff]
  constructor
  · rintro ⟨target, isTarget, active, rfl⟩
    exact ⟨active, isTarget⟩
  · rintro ⟨active, isTarget⟩
    exact ⟨keptBins keep cell, isTarget, active, rfl⟩

variable [Scalar C]

/-- An active cell of the source lies above an active cell of the projection. -/
theorem IsProjection.isActiveCell_keptBins
    {source result : Histogram K C}
    {keep cell : List Nat}
    (isProjection : IsProjection source keep result)
    (keeps : Keeps source.dimensions keep)
    (active : source.IsActiveCell cell) :
    result.IsActiveCell (keptBins keep cell) :=
  active.kept isProjection.axes_eq ((keptBins_eq_iff keeps active).mp rfl)

variable [Scalar.Exact C]

/-- The sum over cells of a projection is the sum over the source cells above them. -/
theorem IsProjection.sumOver_eq
    {source result : Histogram K C}
    {keep : List Nat}
    {targets : List (List Nat)}
    (isProjection : IsProjection source keep result)
    (keeps : Keeps source.dimensions keep)
    (areCells : ∀ target ∈ targets, result.IsCell target) :
    result.sumOver targets = source.sumOver (targets.flatMap (source.cellsAbove keep)) := by
  calc
    result.sumOver targets =
        Scalar.total targets fun target =>
          Scalar.total (source.cellsAbove keep target) source.content :=
      Scalar.total_congr fun target member =>
        isProjection.content_eq_sumOver keeps (areCells target member)
    _ = source.sumOver (targets.flatMap (source.cellsAbove keep)) :=
      (Scalar.total_flatMap targets (source.cellsAbove keep) source.content).symm

/--
The integral of a projection whose axes have been titled and restricted anew: the
sum over the active cells of the source whose kept bins are active now.
-/
theorem IsProjection.exists_cells_integral_eq
    {source result shown : Histogram K C}
    {keep : List Nat}
    (isProjection : IsProjection source keep result)
    (keeps : Keeps source.dimensions keep)
    (sameShape : shown.shape = result.shape)
    (sameContent : ∀ bins, shown.content bins = result.content bins) :
    ∃ cells : List (List Nat),
      cells.Nodup ∧
        (∀ cell,
          cell ∈ cells ↔
            source.IsActiveCell cell ∧ shown.IsActiveCell (keptBins keep cell)) ∧
        shown.integral = source.sumOver cells := by
  have areCells : ∀ target ∈ shown.activeCells, result.IsCell target := by
    intro target member
    have isCell := (mem_activeCells_iff.mp member).isCell
    rw [IsCell, sameShape] at isCell
    exact isCell
  refine
    ⟨shown.activeCells.flatMap (source.cellsAbove keep),
      nodup_flatMap_cellsAbove shown.nodup_activeCells, ?_, ?_⟩
  · intro cell
    rw [mem_flatMap_cellsAbove_iff, mem_activeCells_iff]
  · calc
      shown.integral = shown.sumOver shown.activeCells := shown.integral_eq_sumOver
      _ = result.sumOver shown.activeCells :=
        Scalar.total_congr fun target _ => sameContent target
      _ = source.sumOver (shown.activeCells.flatMap (source.cellsAbove keep)) :=
        isProjection.sumOver_eq keeps areCells

/--
A projection onto any of the axes, in any order, has the integral of the histogram,
whichever bins are active on the axes that are kept and on those that are not.
-/
theorem integral_projection
    {source : Histogram K C}
    {keep : List Nat}
    (nonempty : keep ≠ [])
    (keeps : Keeps source.dimensions keep) :
    ∃ result,
      source.projection keep = .ok result ∧ result.integral = source.integral := by
  obtain ⟨result, found, isProjection⟩ := projection_of_keeps nonempty keeps.length_le keeps
  obtain ⟨cells, distinct, members, integral⟩ :=
    isProjection.exists_cells_integral_eq keeps rfl fun _ => rfl
  have allActive : cells.Perm source.activeCells := by
    rw [List.perm_ext_iff_of_nodup distinct source.nodup_activeCells]
    intro cell
    rw [members, mem_activeCells_iff]
    exact and_iff_left_of_imp (isProjection.isActiveCell_keptBins keeps)
  refine ⟨result, found, ?_⟩
  calc
    result.integral = source.sumOver cells := integral
    _ = source.sumOver source.activeCells := Scalar.total_perm allActive source.content
    _ = source.integral := source.integral_eq_sumOver.symm

/-- Two axes, the first one with two of its three bins active, and six contents. -/
def sampleGrid : Histogram Rat Rat where
  name := "grid"
  title := ""
  axes :=
    [ { edges := ⟨[0, 1, 2, 3], by decide, by decide, by decide⟩
        selection := .span 1 2
        selection_fits := ⟨by decide, by decide, by decide⟩ },
      { edges := ⟨[0, 1, 2], by decide, by decide, by decide⟩ } ]
  contents := #[1, 2, 3, 4, 5, 6]
  entries := 6
  axes_ne_nil := by decide
  size_contents := rfl
  size_fits := by decide

/-- The active contents of the sample add up to the same number row by row. -/
theorem integral_projection_sampleGrid :
    Keeps sampleGrid.dimensions [1] ∧
      ∃ result, sampleGrid.projection [1] = .ok result ∧ result.integral = 12 := by
  have keeps : Keeps sampleGrid.dimensions [1] := ⟨by decide, by decide⟩
  have active : sampleGrid.integral = 12 := by
    rw [integral_eq_sumOver]
    decide +kernel
  obtain ⟨result, found, sameIntegral⟩ := integral_projection (by decide) keeps
  exact ⟨keeps, result, found, sameIntegral.trans active⟩

end PlotBoard.Histogram
