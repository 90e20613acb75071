import PlotBoard.Proofs.Histogram.View
import PlotBoard.Proofs.Render.Sampling
import PlotBoard.Render.Recording

namespace PlotBoard

/-!
# Excluded cells are invisible

Notes about plots and frames of plots read the active cells only: the statistics
walk through them, and the sampled bins are active. Contents of other cells leave
no trace in anything that can be read off a histogram or its plots.
-/

section Ranks

variable {K C : Type} [Scalar K]

namespace Ranked

theorem axes_eq_one (ranked : Ranked 1 K C) :
    ranked.histogram.axes = [ranked.xAxis] := by
  obtain ⟨axis, single⟩ := List.length_eq_one_iff.mp ranked.dimensions_eq
  simp [xAxis, Ranked.axis, single]

theorem axes_eq_two (ranked : Ranked 2 K C) :
    ranked.histogram.axes = [ranked.xAxis, ranked.yAxis] := by
  obtain ⟨first, second, pair⟩ := List.length_eq_two.mp ranked.dimensions_eq
  simp [xAxis, yAxis, Ranked.axis, pair]

theorem axes_eq_three (ranked : Ranked 3 K C) :
    ranked.histogram.axes = [ranked.xAxis, ranked.yAxis, ranked.zAxis] := by
  obtain ⟨first, second, third, triple⟩ := List.length_eq_three.mp ranked.dimensions_eq
  simp [xAxis, yAxis, zAxis, Ranked.axis, triple]

theorem isActiveCell_singleton_iff
    {ranked : Ranked 1 K C}
    {bin : Nat} :
    ranked.histogram.IsActiveCell [bin] ↔ ranked.xAxis.isActive bin = true := by
  rw [Histogram.IsActiveCell, ranked.axes_eq_one, List.forall₂_cons, and_iff_left .nil]

theorem isActiveCell_pair_iff
    {ranked : Ranked 2 K C}
    {x y : Nat} :
    ranked.histogram.IsActiveCell [x, y] ↔
      ranked.xAxis.isActive x = true ∧ ranked.yAxis.isActive y = true := by
  rw [Histogram.IsActiveCell, ranked.axes_eq_two, List.forall₂_cons, List.forall₂_cons,
    ← and_assoc, and_iff_left .nil]

theorem isActiveCell_triple_iff
    {ranked : Ranked 3 K C}
    {x y z : Nat} :
    ranked.histogram.IsActiveCell [x, y, z] ↔
      ranked.xAxis.isActive x = true ∧
        ranked.yAxis.isActive y = true ∧
        ranked.zAxis.isActive z = true := by
  rw [Histogram.IsActiveCell, ranked.axes_eq_three]
  simp only [List.forall₂_cons, List.Forall₂.nil, and_true]

theorem axis_alike
    {rank index : Nat}
    {plot other : Ranked rank K C}
    [Scalar C]
    (alike : Histogram.Alike plot.histogram other.histogram)
    (below : index < rank) :
    (plot.axis index below).Alike (other.axis index below) :=
  alike.axes_alike.get (Nat.lt_of_lt_of_eq below plot.dimensions_eq.symm)
    (Nat.lt_of_lt_of_eq below other.dimensions_eq.symm)

end Ranked

/-- Plots of histograms with equally many axes are plots of the same kind. -/
theorem Drawable.cases_of_dimensions_eq
    {motive : Drawable K C → Drawable K C → Prop}
    (one : ∀ first second, motive (.one first) (.one second))
    (two : ∀ first second, motive (.two first) (.two second))
    (three : ∀ first second, motive (.three first) (.three second))
    {first second : Drawable K C}
    (sameDimensions : second.histogram.dimensions = first.histogram.dimensions) :
    motive first second := by
  cases first with
  | one plot =>
      have rank : second.histogram.dimensions = 1 :=
        sameDimensions.trans plot.dimensions_eq
      cases second with
      | one other => exact one plot other
      | two other => exact absurd (other.dimensions_eq.symm.trans rank) (by decide)
      | three other => exact absurd (other.dimensions_eq.symm.trans rank) (by decide)
  | two plot =>
      have rank : second.histogram.dimensions = 2 :=
        sameDimensions.trans plot.dimensions_eq
      cases second with
      | one other => exact absurd (other.dimensions_eq.symm.trans rank) (by decide)
      | two other => exact two plot other
      | three other => exact absurd (other.dimensions_eq.symm.trans rank) (by decide)
  | three plot =>
      have rank : second.histogram.dimensions = 3 :=
        sameDimensions.trans plot.dimensions_eq
      cases second with
      | one other => exact absurd (other.dimensions_eq.symm.trans rank) (by decide)
      | two other => exact absurd (other.dimensions_eq.symm.trans rank) (by decide)
      | three other => exact three plot other

end Ranks

variable {K C N : Type} [Scalar K] [Scalar C]

namespace Terminal

variable [Scalar N] [Narrowing C N] [Reductions N]

theorem sampledBins_eq_of_alike
    {axis other : Axis K}
    (alike : axis.Alike other)
    (room : Nat) :
    sampledBins other room = sampledBins axis room := by
  rw [sampledBins, sampledBins, alike.activeCount_eq, alike.range_eq]

theorem footer_eq_of_alike
    {axis other : Axis K}
    (alike : axis.Alike other) :
    footer other = footer axis := by
  simp only [footer, Axis.low, Axis.high, alike.edges_eq, alike.range_eq, alike.title_eq]

theorem header_eq_of_alike
    {first second : Histogram K C}
    (alike : Histogram.Alike first second)
    (request : DrawRequest) :
    header second request = header first request := by
  rw [header, header, alike.name_eq, alike.title_eq]

/-- A bar stands for an active bin. -/
theorem barChart_eq_of_alike
    {plot other : Ranked 1 K C}
    (alike : Histogram.Alike plot.histogram other.histogram)
    (width height : Nat)
    (request : DrawRequest) :
    barChart width height other request = barChart width height plot request := by
  have xAlike : plot.xAxis.Alike other.xAxis := Ranked.axis_alike alike _
  have sameHeights :
      (sampledBins plot.xAxis width).map
          (fun bin =>
            level plot.histogram.statistics.maximum height
              (Narrowing.narrow (other.histogram.content [bin]))) =
        (sampledBins plot.xAxis width).map
          fun bin =>
            level plot.histogram.statistics.maximum height
              (Narrowing.narrow (plot.histogram.content [bin])) := by
    apply List.map_congr_left
    intro bin member
    have active : plot.histogram.IsActiveCell [bin] :=
      Ranked.isActiveCell_singleton_iff.mpr (isActive_of_mem_sampledBins member)
    rw [alike.content_eq [bin] active]
  simp only [barChart, header_eq_of_alike alike, sampledBins_eq_of_alike xAlike,
    footer_eq_of_alike xAlike, alike.statistics_eq, sameHeights]

/-- A character stands for an active cell. -/
theorem densityMap_eq_of_alike
    {plot other : Ranked 2 K C}
    (alike : Histogram.Alike plot.histogram other.histogram)
    (width height : Nat)
    (request : DrawRequest) :
    densityMap width height other request = densityMap width height plot request := by
  have xAlike : plot.xAxis.Alike other.xAxis := Ranked.axis_alike alike _
  have yAlike : plot.yAxis.Alike other.yAxis := Ranked.axis_alike alike _
  have sameContent :
      ∀ y ∈ (sampledBins plot.yAxis height).reverse,
        ∀ x ∈ sampledBins plot.xAxis width,
          other.histogram.content [x, y] = plot.histogram.content [x, y] := by
    intro y yMember x xMember
    apply alike.content_eq
    exact
      Ranked.isActiveCell_pair_iff.mpr
        ⟨isActive_of_mem_sampledBins xMember,
          isActive_of_mem_sampledBins (List.mem_reverse.mp yMember)⟩
  simp only [densityMap, header_eq_of_alike alike, sampledBins_eq_of_alike xAlike,
    sampledBins_eq_of_alike yAlike, alike.statistics_eq]
  congr 1
  apply List.map_congr_left
  intro y yMember
  congr 1
  apply List.map_congr_left
  intro x xMember
  rw [sameContent y yMember x xMember]

/-- The sums over the third axis are alike, if there is one. -/
theorem frame_eq_of_alike
    {plot other : Drawable K C}
    (alike : Histogram.Alike plot.histogram other.histogram)
    (width height : Nat)
    (request : DrawRequest) :
    frame width height other request = frame width height plot request := by
  refine
    Drawable.cases_of_dimensions_eq
      (motive := fun plot other =>
        Histogram.Alike plot.histogram other.histogram →
          frame width height other request = frame width height plot request)
      ?one ?two ?three alike.dimensions_eq alike
  case one =>
    intro plot other alike
    exact congrArg Except.ok (barChart_eq_of_alike alike width height request)
  case two =>
    intro plot other alike
    exact congrArg Except.ok (densityMap_eq_of_alike alike width height request)
  case three =>
    intro plot other alike
    have sums := alike.projection [0, 1]
    simp only [frame, Ranked.projectXY, Drawable.histogram] at sums ⊢
    generalize plot.histogram.projection [0, 1] = sum at sums ⊢
    generalize other.histogram.projection [0, 1] = otherSum at sums ⊢
    cases sums with
    | refused error => rfl
    | @projected sum otherSum sumsAlike _ =>
        have sameDimensions := sumsAlike.dimensions_eq
        by_cases rank : sum.dimensions = 2
        · have otherRank := sameDimensions.trans rank
          simp only [Except.bind, Ranked.ofHistogram, dif_pos rank, dif_pos otherRank]
          exact congrArg Except.ok (densityMap_eq_of_alike sumsAlike width height request)
        · simp only [Except.bind, Ranked.ofHistogram, dif_neg rank, sumsAlike.name_eq,
            sameDimensions]

theorem frame_eq_of_sameView
    {plot other : Drawable K C}
    (same : Histogram.SameView plot.histogram other.histogram)
    (width height : Nat)
    (request : DrawRequest) :
    frame width height other request = frame width height plot request :=
  frame_eq_of_alike same.alike width height request

end Terminal

theorem DrawCall.of_eq_of_alike
    {plot other : Drawable K C}
    (alike : Histogram.Alike plot.histogram other.histogram)
    (request : DrawRequest) :
    DrawCall.of other request = DrawCall.of plot request := by
  have sameTitles :
      other.histogram.axes.map Axis.title = plot.histogram.axes.map Axis.title :=
    alike.map_axes_eq fun _ _ axisAlike => axisAlike.title_eq
  simp only [DrawCall.of, alike.name_eq, alike.dimensions_eq, alike.primaryAxis_alike.range_eq,
    sameTitles, alike.integral_eq]

theorem DrawCall.of_eq_of_sameView
    {plot other : Drawable K C}
    (same : Histogram.SameView plot.histogram other.histogram)
    (request : DrawRequest) :
    DrawCall.of other request = DrawCall.of plot request :=
  of_eq_of_alike same.alike request

/-- Plots of alike histograms are noted in the same words and drawn as the same frames. -/
theorem Drawable.draw_eq_of_alike
    [Scalar N]
    [Narrowing C N]
    [Reductions N]
    {plot other : Drawable K C}
    (alike : Histogram.Alike plot.histogram other.histogram)
    (request : DrawRequest) :
    (∀ calls,
      Renderer.recording.draw other request calls =
        Renderer.recording.draw plot request calls) ∧
      ∀ terminal,
        Renderer.terminal.draw other request terminal =
          Renderer.terminal.draw plot request terminal := by
  constructor
  · intro calls
    simp only [Renderer.recording, DrawCall.of_eq_of_alike alike request]
  · intro terminal
    have sameFrame :=
      Terminal.frame_eq_of_alike alike terminal.width.toNat terminal.height.toNat request
    simp only [Renderer.terminal, Terminal.draw, sameFrame]

/--
Histograms that differ at most in contents of cells that are not active have the
same integral, statistics and projections or projection errors; their plots are
noted in the same words and drawn as the same frames, whatever the request and the
extents of the terminal.
-/
theorem Histogram.excluded_cells_invisible
    [Scalar N]
    [Narrowing C N]
    [Reductions N]
    {first second : Histogram K C}
    (same : SameView first second) :
    second.integral = first.integral ∧
      second.statistics = first.statistics ∧
      (∀ keep, second.projection keep = first.projection keep) ∧
      ∀ (plot other : Drawable K C) (request : DrawRequest),
        plot.histogram = first →
          other.histogram = second →
            (∀ calls,
              Renderer.recording.draw other request calls =
                Renderer.recording.draw plot request calls) ∧
              ∀ terminal,
                Renderer.terminal.draw other request terminal =
                  Renderer.terminal.draw plot request terminal := by
  refine ⟨same.integral_eq, same.statistics_eq, same.projection_eq, ?_⟩
  rintro plot other request rfl rfl
  constructor
  · intro calls
    have sameCall := DrawCall.of_eq_of_sameView same request
    simp only [Renderer.recording, sameCall]
  · intro terminal
    have sameFrame :=
      Terminal.frame_eq_of_sameView same terminal.width.toNat terminal.height.toNat request
    simp only [Renderer.terminal, Terminal.draw, sameFrame]

/-- Three bins of which the last is excluded, with a content to be chosen there. -/
def sampleRow (excluded : Rat) : Histogram Rat Rat where
  name := "row"
  title := ""
  axes :=
    [ { edges := ⟨[0, 10, 20, 30], by decide, by decide, by decide⟩
        selection := .span 1 2
        selection_fits := ⟨by decide, by decide, by decide⟩ } ]
  contents := #[1, 2, excluded]
  entries := 3
  axes_ne_nil := by decide
  size_contents := rfl
  size_fits := by decide

theorem sameView_sampleRow : Histogram.SameView (sampleRow 3) (sampleRow 9) where
  name_eq := rfl
  title_eq := rfl
  axes_eq := rfl
  entries_eq := rfl
  content_eq := by
    intro cell active
    have listed : cell ∈ [[1], [2]] := Histogram.mem_activeCells_iff.mpr active
    rcases List.mem_pair.mp listed with rfl | rfl
    · rfl
    · rfl

theorem sampleRow_excluded_cell_invisible :
    (sampleRow 9).content [3] ≠ (sampleRow 3).content [3] ∧
      (sampleRow 9).integral = (sampleRow 3).integral ∧
      ∀ terminal,
        Renderer.terminal.draw (.one ⟨sampleRow 9, rfl⟩) {} terminal =
          Renderer.terminal.draw (.one ⟨sampleRow 3, rfl⟩) {} terminal := by
  obtain ⟨sameIntegral, -, -, samePlots⟩ :=
    Histogram.excluded_cells_invisible sameView_sampleRow
  refine ⟨by decide, sameIntegral, ?_⟩
  exact (samePlots (.one ⟨sampleRow 3, rfl⟩) (.one ⟨sampleRow 9, rfl⟩) {} rfl rfl).2

end PlotBoard
