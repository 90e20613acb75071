import Mathlib.Algebra.Order.Ring.Rat
import Mathlib.Order.Bounds.Basic
import PlotBoard.Histogram.Statistics
import PlotBoard.Proofs.Histogram.Cells
import PlotBoard.Proofs.Number.Order

namespace PlotBoard

/-!
# Statistics in exact arithmetic

The statistics of a histogram are taken over the contents of its active cells in the
order in which they are visited. Reductions that find the least, the greatest and the
mean number of a list make them the least, the greatest and the mean active content,
whatever the order.
-/

/-- Reductions of exact numbers that find what they are named for. -/
class Reductions.Exact [Reductions Rat] : Prop where
  isLeast :
    ∀ numbers : List Rat,
      numbers ≠ [] →
      ∃ least,
        minimum? numbers = some least ∧ IsLeast {number | number ∈ numbers} least
  isGreatest :
    ∀ numbers : List Rat,
      numbers ≠ [] →
      ∃ greatest,
        maximum? numbers = some greatest ∧ IsGreatest {number | number ∈ numbers} greatest
  mean_eq :
    ∀ numbers : List Rat,
      numbers ≠ [] →
      mean? numbers = some (numbers.sum / numbers.length)

namespace Reductions

/-- In exact arithmetic the first of the least numbers is the least number. -/
theorem exists_isLeast_least?
    {numbers : List Rat}
    (nonempty : numbers ≠ []) :
    ∃ least, least? numbers = some least ∧ IsLeast {number | number ∈ numbers} least := by
  obtain ⟨first, rest, rfl⟩ := List.exists_cons_of_ne_nil nonempty
  refine ⟨rest.foldl min first, ?_, isLeast_foldl_min first rest⟩
  rw [least?]
  congr 1
  apply List.foldl_ext
  intro best number _
  rw [min_comm]
  exact (min_def_lt number best).symm

/-- In exact arithmetic the first of the greatest numbers is the greatest number. -/
theorem exists_isGreatest_greatest?
    {numbers : List Rat}
    (nonempty : numbers ≠ []) :
    ∃ greatest,
      greatest? numbers = some greatest ∧ IsGreatest {number | number ∈ numbers} greatest := by
  obtain ⟨first, rest, rfl⟩ := List.exists_cons_of_ne_nil nonempty
  refine ⟨rest.foldl max first, ?_, isGreatest_foldl_max first rest⟩
  rw [greatest?]
  congr 1
  apply List.foldl_ext
  intro best number _
  exact (max_def_lt best number).symm

/-- Taking the numbers one after the other is one way to find all three. -/
instance : Exact where
  isLeast _ := exists_isLeast_least?
  isGreatest _ := exists_isGreatest_greatest?
  mean_eq numbers nonempty := by
    obtain ⟨first, rest, rfl⟩ := List.exists_cons_of_ne_nil nonempty
    rw [List.sum_eq_foldl]
    rfl

end Reductions

namespace Histogram

variable {K C : Type} [Scalar K] [Scalar C]

/-- The active contents are the contents of the active cells. -/
theorem toList_activeContents (histogram : Histogram K C) :
    histogram.activeContents.toList = histogram.activeCells.map histogram.content := by
  rw [activeContents, foldActive_eq_foldl, List.foldl_push_eq_append]
  simp

/-- The contents of the active cells, each of them once. -/
def activeValues (histogram : Histogram K C) : Set C :=
  {content | ∃ cell, histogram.IsActiveCell cell ∧ histogram.content cell = content}

theorem activeValues_eq (histogram : Histogram K C) :
    histogram.activeValues =
      {content | content ∈ histogram.activeCells.map histogram.content} := by
  ext content
  simp only [activeValues, Set.mem_ofPred_eq, List.mem_map, mem_activeCells_iff]

/-- Without active cells the statistics are zero, whatever the library does. -/
theorem statistics_of_activeCells_eq_nil
    {N : Type}
    [Scalar N]
    [Narrowing C N]
    [Reductions N]
    {histogram : Histogram K C}
    (noneActive : histogram.activeCells = []) :
    histogram.statistics =
      { minimum := ((0 : Nat) : N)
        maximum := ((0 : Nat) : N)
        mean := ((0 : Nat) : N) } := by
  rw [statistics, toList_activeContents, noneActive]
  rfl

section ExactContents

variable [Reductions Rat] [Reductions.Exact]

/--
In exact arithmetic the statistics are the least and the greatest active content and
the integral divided among the active cells.
-/
theorem statistics_exact
    {histogram : Histogram K Rat}
    (someActive : histogram.activeCells ≠ []) :
    IsLeast histogram.activeValues histogram.statistics.minimum ∧
      IsGreatest histogram.activeValues histogram.statistics.maximum ∧
      histogram.statistics.mean = histogram.integral / histogram.activeCells.length := by
  have narrowed :
      histogram.activeContents.toList.map (Narrowing.narrow : Rat → Rat) =
        histogram.activeCells.map histogram.content := by
    rw [toList_activeContents]
    exact List.map_id _
  have nonempty : histogram.activeCells.map histogram.content ≠ [] :=
    fun empty => someActive (List.map_eq_nil_iff.mp empty)
  have integral_eq :
      histogram.integral = (histogram.activeCells.map histogram.content).sum := by
    rw [integral, foldActive_eq_foldl, List.sum_eq_foldl, List.foldl_map]
    rfl
  obtain ⟨least, leastFound, isLeast⟩ := Reductions.Exact.isLeast _ nonempty
  obtain ⟨greatest, greatestFound, isGreatest⟩ := Reductions.Exact.isGreatest _ nonempty
  have meanFound := Reductions.Exact.mean_eq _ nonempty
  rw [List.length_map, ← integral_eq] at meanFound
  rw [activeValues_eq, statistics, narrowed, ContentStatistics.ofList,
    if_neg (mt List.isEmpty_iff.mp nonempty), leastFound, greatestFound, meanFound]
  exact ⟨isLeast, isGreatest, rfl⟩

/-- In exact arithmetic the maximum is the greatest content of an active cell. -/
theorem maximum_eq_of_isGreatest
    {histogram : Histogram K Rat}
    {largest : Rat}
    (isLargest : IsGreatest histogram.activeValues largest) :
    histogram.statistics.maximum = largest := by
  obtain ⟨cell, active, -⟩ := isLargest.1
  have someActive : histogram.activeCells ≠ [] :=
    List.ne_nil_of_mem (mem_activeCells_iff.mpr active)
  exact (statistics_exact someActive).2.1.unique isLargest

end ExactContents

end Histogram

end PlotBoard
