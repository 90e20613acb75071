import PlotBoard.Proofs.Axis.Changes
import PlotBoard.Proofs.Render.Visibility

namespace PlotBoard

/-!
# Setting a reported range

An axis reports the first and the last of its active bins. Setting just this range on it
leaves the same bins active, and with them everything that is made of a histogram with
the axis. It is otherwise when no bin is active: what the axis then reports are bounds in
falling order, which lift the restriction when they are set.
-/

variable {K : Type} [Scalar K]

namespace Axis

/-- The axis after the range that it reports has been set on it. -/
def withReportedRange (axis : Axis K) : Axis K :=
  axis.setRange axis.range.1 axis.range.2

/-- The report for no active bin is the one that no span of active bins has. -/
theorem range_eq_one_zero_iff {axis : Axis K} :
    axis.range = (1, 0) ↔ ∀ bin, axis.isActive bin = false := by
  constructor
  · intro reported bin
    rw [isActive, reported]
    simp only [Bool.and_eq_false_iff, decide_eq_false_iff_not]
    omega
  · intro noneActive
    rcases axis.range_cases with nothing | ⟨-, rising, -⟩
    · exact nothing
    · have firstActive : axis.isActive axis.range.1 = true :=
        isActive_iff.mpr ⟨Nat.le_refl _, rising⟩
      rw [noneActive] at firstActive
      cases firstActive

/-- With some bin active a reported range runs upward between bins of the axis. -/
theorem selection_withReportedRange
    {axis : Axis K}
    (someActive : axis.range ≠ (1, 0)) :
    axis.withReportedRange.selection = .span axis.range.1 axis.range.2 := by
  obtain ⟨fromFirst, rising, toLast⟩ := axis.range_cases.resolve_left someActive
  have overlap : ¬(axis.range.2 = 0 ∨ axis.bins < axis.range.1) := by
    omega
  rw [withReportedRange, selection_setRange, Selection.between_of_overlap rising overlap,
    Nat.max_eq_left fromFirst, Nat.min_eq_left toLast]

theorem alike_withReportedRange
    {axis : Axis K}
    (someActive : axis.range ≠ (1, 0)) :
    axis.Alike axis.withReportedRange where
  edges_eq := rfl
  name_eq := rfl
  title_eq := rfl
  style_eq := rfl
  range_eq := by
    rw [range, selection_withReportedRange someActive]
    rfl

/-- Only an axis without a restriction becomes another one, which is restricted to all its bins. -/
theorem withReportedRange_eq_self_iff
    {axis : Axis K}
    (someActive : axis.range ≠ (1, 0)) :
    axis.withReportedRange = axis ↔ axis.isRestricted = true := by
  have reported := selection_withReportedRange someActive
  constructor
  · intro same
    rw [isRestricted, ← same, reported]
    rfl
  · intro restricted
    apply (alike_withReportedRange someActive).eq_of_selection_eq
    rw [reported, range] at *
    cases selected : axis.selection with
    | all => simp [isRestricted, selected] at restricted
    | nothing => simp [selected, Selection.range] at someActive
    | span first last => rfl

/-- Without an active bin the reported bounds fall, and setting them lifts the restriction. -/
theorem selection_withReportedRange_of_nothing
    {axis : Axis K}
    (noneActive : axis.range = (1, 0)) :
    axis.withReportedRange.selection = .all := by
  rw [withReportedRange, selection_setRange, noneActive]
  exact Selection.between_of_inverted Nat.zero_lt_one

end Axis

variable {C : Type}

namespace Histogram

theorem setRange_eq_self
    {histogram : Histogram K C}
    {index first last : Nat}
    {axis : Axis K}
    (axisFound : histogram.axes[index]? = some axis)
    (unchanged : axis.setRange first last = axis) :
    histogram.setRange index first last = histogram := by
  have sameAxes :
      histogram.axes.modify index (·.setRange first last) = histogram.axes := by
    apply List.ext_getElem?
    intro place
    rw [List.getElem?_modify]
    split
    · next here =>
        rw [← here, axisFound, Option.map_eq_map, Option.map_some, unchanged]
    · exact id_map _
  cases histogram
  simp only [setRange, modifyAxis, mk.injEq, true_and, and_true]
  exact sameAxes

variable [Scalar C]

/-- Setting a range on one axis of a histogram changes nothing but which bins of it are active. -/
theorem alike_setRange
    {histogram : Histogram K C}
    {index first last : Nat}
    {axis : Axis K}
    (axisFound : histogram.axes[index]? = some axis)
    (axisAlike : axis.Alike (axis.setRange first last)) :
    Alike histogram (histogram.setRange index first last) where
  name_eq := rfl
  title_eq := rfl
  entries_eq := rfl
  axes_alike := by
    rw [List.forall₂_iff_get]
    refine ⟨(List.length_modify _ _ _).symm, ?_⟩
    intro place below otherBelow
    simp only [setRange, modifyAxis, List.get_eq_getElem, List.getElem_modify]
    split
    · next here =>
        obtain ⟨_, isAxis⟩ := List.getElem?_eq_some_iff.mp axisFound
        simp only [← here, isAxis]
        exact axisAlike
    · exact .refl _
  content_eq := by
    intro cell _
    have sameShape : (histogram.setRange index first last).shape = histogram.shape :=
      map_bins_modify histogram.axes index fun axis => axis.bins_setRange first last
    exact content_congr sameShape rfl cell

end Histogram

/--
An axis reports `(1, 0)` just when none of its bins is active. Any other range that it
reports can be set on it without effect: the same bins stay active, and the integral, the
statistics, the projections and the plots of a histogram with the axis remain. An axis
that was restricted stays as it is, and an unrestricted one becomes restricted to all its
bins. The range `(1, 0)` has its bounds in falling order: an axis without active bins that
is set to it is unrestricted afterwards, and all its bins are active.
-/
theorem Axis.setRange_reported_range
    {N : Type}
    [Scalar C]
    [Scalar N]
    [Narrowing C N]
    [Reductions N]
    (axis : Axis K) :
    (axis.range = (1, 0) ↔ ∀ bin, axis.isActive bin = false) ∧
      (axis.range ≠ (1, 0) →
        (∀ bin, axis.withReportedRange.isActive bin = axis.isActive bin) ∧
          axis.Alike axis.withReportedRange ∧
          (axis.withReportedRange = axis ↔ axis.isRestricted = true) ∧
          ∀ (histogram after : Histogram K C) (index : Nat),
            histogram.axes[index]? = some axis →
              after = histogram.setRange index axis.range.1 axis.range.2 →
                (axis.isRestricted = true → after = histogram) ∧
                  after.contents = histogram.contents ∧
                  after.integral = histogram.integral ∧
                  after.statistics = histogram.statistics ∧
                  (∀ keep,
                    Histogram.AlikeResults (histogram.projection keep)
                      (after.projection keep)) ∧
                  ∀ (plot other : Drawable K C) (request : DrawRequest),
                    plot.histogram = histogram →
                      other.histogram = after →
                        (∀ calls,
                          Renderer.recording.draw other request calls =
                            Renderer.recording.draw plot request calls) ∧
                          ∀ terminal,
                            Renderer.terminal.draw other request terminal =
                              Renderer.terminal.draw plot request terminal) ∧
      (axis.range = (1, 0) →
        axis.withReportedRange.isRestricted = false ∧
          ∀ bin,
            1 ≤ bin →
              bin ≤ axis.bins →
                axis.withReportedRange.isActive bin = true) := by
  refine ⟨range_eq_one_zero_iff, ?someActive, ?noneActive⟩
  case someActive =>
    intro someActive
    have alike := alike_withReportedRange someActive
    refine ⟨alike.isActive_eq, alike, withReportedRange_eq_self_iff someActive, ?_⟩
    rintro histogram after index axisFound rfl
    have histogramsAlike := Histogram.alike_setRange axisFound alike
    refine
      ⟨?_, rfl, histogramsAlike.integral_eq, histogramsAlike.statistics_eq,
        histogramsAlike.projection, ?_⟩
    · intro restricted
      exact
        Histogram.setRange_eq_self axisFound
          ((withReportedRange_eq_self_iff someActive).mpr restricted)
    · rintro plot other request rfl sameHistogram
      exact Drawable.draw_eq_of_alike (sameHistogram ▸ histogramsAlike) request
  case noneActive =>
    intro noneActive
    have lifted := selection_withReportedRange_of_nothing noneActive
    have unrestricted : axis.withReportedRange.isRestricted = false := by
      rw [isRestricted, lifted]
      rfl
    exact
      ⟨unrestricted, fun bin fromFirst toLast =>
        isActive_of_unrestricted unrestricted ⟨fromFirst, toLast⟩⟩

/-- The row with a restricted axis, the row with the restriction lifted, and a span of no bins. -/
theorem Axis.setRange_reported_range_sampleRow :
    (sampleRow 3).setRange 0 1 2 = sampleRow 3 ∧
      (sampleRow 3).setRange 0 1 0 ≠ sampleRow 3 ∧
      (((sampleRow 3).setRange 0 1 0).setRange 0 1 3).integral =
        ((sampleRow 3).setRange 0 1 0).integral ∧
      (∀ terminal,
        Renderer.terminal.draw (.one ⟨((sampleRow 3).setRange 0 1 0).setRange 0 1 3, rfl⟩) {}
            terminal =
          Renderer.terminal.draw (.one ⟨(sampleRow 3).setRange 0 1 0, rfl⟩) {} terminal) ∧
      (unequalBins.run [.span 5 6]).isActive 2 = false ∧
      (unequalBins.run [.span 5 6]).withReportedRange.isActive 2 = true := by
  have restricted := (sampleRow 3).primaryAxis.setRange_reported_range (C := Rat) (N := Rat)
  have unrestricted :=
    ((sampleRow 3).setRange 0 1 0).primaryAxis.setRange_reported_range (C := Rat) (N := Rat)
  obtain ⟨noneActive, -, lifted⟩ :=
    (unequalBins.run [.span 5 6]).setRange_reported_range (C := Rat) (N := Rat)
  obtain ⟨-, -, -, restrictedHistogram⟩ := restricted.2.1 (by decide)
  obtain ⟨-, -, -, unrestrictedHistogram⟩ := unrestricted.2.1 (by decide)
  obtain ⟨same, -⟩ := restrictedHistogram (sampleRow 3) _ 0 rfl rfl
  obtain ⟨-, -, sameIntegral, -, -, samePlots⟩ :=
    unrestrictedHistogram ((sampleRow 3).setRange 0 1 0) _ 0 rfl rfl
  refine ⟨same rfl, ?_, sameIntegral, ?_, noneActive.mp rfl 2, ?_⟩
  · intro unchanged
    have sameRange := congrArg (·.primaryAxis.range) unchanged
    exact absurd sameRange (by decide)
  · exact
      (samePlots (.one ⟨(sampleRow 3).setRange 0 1 0, rfl⟩)
        (.one ⟨((sampleRow 3).setRange 0 1 0).setRange 0 1 3, rfl⟩) {} rfl rfl).2
  · exact (lifted rfl).2 2 (by decide) (by decide)

/-- Of an axis with no active bin, setting the range that it reports makes all bins active. -/
theorem Axis.isActive_unequalBins_of_reported_range :
    Made [0, 1, 5, 6] unequalBins ∧
      (unequalBins.run [.span 5 6]).range = (1, 0) ∧
      (unequalBins.run [.span 5 6]).isActive 1 = false ∧
      (unequalBins.run [.span 5 6, .span 1 0]).isActive 1 = true :=
  ⟨.ofEdges rfl, rfl, rfl, rfl⟩

end PlotBoard
