import PlotBoard.Histogram.Ranked
import PlotBoard.Histogram.Statistics
import PlotBoard.Proofs.Histogram.Projection

namespace PlotBoard.Histogram

/-!
# What a histogram shows of itself

Two histograms are alike when their axes report the same and they differ at most in
contents of cells that are not active. A walk through the active cells cannot tell them
apart, and neither can the integral and the statistics, which are such walks; their
projections are alike again. They have the same view when their axes are even equal, and
then so are their projections.
-/

variable {K C : Type} [Scalar K]

theorem map_eq_of_alike
    {A : Type}
    {value : Axis K → A}
    {axes others : List (Axis K)}
    (alike : List.Forall₂ Axis.Alike axes others)
    (sameValue : ∀ axis other, Axis.Alike axis other → value other = value axis) :
    others.map value = axes.map value := by
  induction alike with
  | nil => rfl
  | cons axisAlike _ inductionHypothesis =>
      rw [List.map_cons, List.map_cons, sameValue _ _ axisAlike, inductionHypothesis]

variable [Scalar C]

/-- The axes are alike, and nothing else differs but contents of cells that are not active. -/
structure Alike (first second : Histogram K C) : Prop where
  name_eq : second.name = first.name
  title_eq : second.title = first.title
  entries_eq : second.entries = first.entries
  axes_alike : List.Forall₂ Axis.Alike first.axes second.axes
  content_eq : ∀ cell, first.IsActiveCell cell → second.content cell = first.content cell

/-- Both results are the same error, or both are histograms that are alike in all their cells. -/
inductive AlikeResults :
    Except Error (Histogram K C) → Except Error (Histogram K C) → Prop
  | refused (error : Error) : AlikeResults (.error error) (.error error)
  | projected
      {first second : Histogram K C}
      (alike : Alike first second)
      (content_eq : ∀ cell, first.IsCell cell → second.content cell = first.content cell) :
      AlikeResults (.ok first) (.ok second)

namespace Alike

variable {first second : Histogram K C}

theorem dimensions_eq (alike : Alike first second) :
    second.dimensions = first.dimensions :=
  alike.axes_alike.length_eq.symm

/-- What alike axes have in common, the axes of alike histograms have in common. -/
theorem map_axes_eq
    {A : Type}
    {value : Axis K → A}
    (alike : Alike first second)
    (sameValue : ∀ axis other, Axis.Alike axis other → value other = value axis) :
    second.axes.map value = first.axes.map value :=
  map_eq_of_alike alike.axes_alike sameValue

theorem primaryAxis_alike (alike : Alike first second) :
    first.primaryAxis.Alike second.primaryAxis := by
  rw [primaryAxis, primaryAxis, List.head_eq_getElem, List.head_eq_getElem]
  exact alike.axes_alike.get _ _

theorem activeCells_eq (alike : Alike first second) :
    second.activeCells = first.activeCells := by
  have sameBins : second.axes.map Axis.activeBins = first.axes.map Axis.activeBins :=
    alike.map_axes_eq fun _ _ axisAlike => axisAlike.activeBins_eq
  rw [activeCells, activeCells, sameBins]

/-- Whatever is made of the active cells is the same. -/
theorem foldActive_eq
    {S : Type}
    (alike : Alike first second)
    (visit : S → List Nat → C → S)
    (state : S) :
    second.foldActive visit state = first.foldActive visit state := by
  rw [foldActive_eq_foldl, foldActive_eq_foldl, alike.activeCells_eq]
  apply List.foldl_ext
  intro state cell member
  rw [alike.content_eq cell (mem_activeCells_iff.mp member)]

theorem integral_eq (alike : Alike first second) :
    second.integral = first.integral :=
  alike.foldActive_eq _ _

theorem statistics_eq
    {N : Type}
    [Scalar N]
    [Narrowing C N]
    [Reductions N]
    (alike : Alike first second) :
    second.statistics = first.statistics := by
  have sameContents : second.activeContents = first.activeContents :=
    alike.foldActive_eq _ _
  rw [statistics, statistics, sameContents]

/-- The same cells lie above a cell, and they hold the same sum. -/
theorem sumOver_cellsAbove_eq
    (alike : Alike first second)
    (keep target : List Nat) :
    second.sumOver (second.cellsAbove keep target) =
      first.sumOver (first.cellsAbove keep target) := by
  rw [cellsAbove, alike.activeCells_eq, ← cellsAbove, sumOver, sumOver]
  apply List.foldl_ext
  intro sum cell member
  have active := mem_activeCells_iff.mp (List.mem_filter.mp member).1
  rw [alike.content_eq cell active]

theorem of_isProjection
    {result other : Histogram K C}
    {keep : List Nat}
    (alike : Alike first second)
    (keeps : Keeps first.dimensions keep)
    (projected : IsProjection first keep result)
    (otherProjected : IsProjection second keep other) :
    AlikeResults (.ok result) (.ok other) := by
  have axesAlike : List.Forall₂ Axis.Alike result.axes other.axes :=
    forall₂_kept alike.axes_alike projected.axes_eq otherProjected.axes_eq
  have sameShape : other.shape = result.shape :=
    map_eq_of_alike axesAlike fun _ _ axisAlike => axisAlike.bins_eq
  have sameContent : ∀ cell, result.IsCell cell → other.content cell = result.content cell := by
    intro cell isCell
    have otherIsCell : other.IsCell cell := by
      rw [IsCell, sameShape]
      exact isCell
    rw [projected.content_eq_sumOver keeps isCell,
      otherProjected.content_eq_sumOver (alike.dimensions_eq.symm ▸ keeps) otherIsCell,
      alike.sumOver_cellsAbove_eq]
  refine
    .projected
      { name_eq := ?_
        title_eq := ?_
        entries_eq := ?_
        axes_alike := axesAlike
        content_eq := fun cell active => sameContent cell active.isCell }
      sameContent
  · rw [otherProjected.name_eq, projected.name_eq, alike.name_eq]
  · rw [otherProjected.title_eq, projected.title_eq, alike.title_eq]
  · rw [otherProjected.entries_eq, projected.entries_eq, alike.entries_eq]

/-- Alike histograms are projected to alike ones, or refused for the same reason. -/
theorem projection
    (alike : Alike first second)
    (keep : List Nat) :
    AlikeResults (first.projection keep) (second.projection keep) := by
  have sameDimensions := alike.dimensions_eq
  by_cases badLength : keep = [] ∨ first.dimensions < keep.length
  · rw [projection_of_bad_length badLength,
      projection_of_bad_length (sameDimensions.symm ▸ badLength), alike.name_eq, sameDimensions]
    exact .refused _
  · cases found : firstInvalidAxis? first.dimensions [] keep with
    | some axis =>
        rw [Histogram.projection, Histogram.projection, sameDimensions, if_neg badLength,
          if_neg badLength, found]
        exact .refused _
    | none =>
        have keeps := keeps_iff_firstInvalidAxis?_eq_none.mpr found
        have otherKeeps := sameDimensions.symm ▸ keeps
        obtain ⟨nonempty, -⟩ := not_or.mp badLength
        obtain ⟨result, projected, isProjection⟩ :=
          projection_of_keeps nonempty keeps.length_le keeps
        obtain ⟨other, otherProjected, otherIsProjection⟩ :=
          projection_of_keeps nonempty otherKeeps.length_le otherKeeps
        rw [projected, otherProjected]
        exact alike.of_isProjection keeps isProjection otherIsProjection

end Alike

/-- The histograms agree in everything but the contents of cells that are not active. -/
structure SameView (first second : Histogram K C) : Prop extends SameFrame first second where
  content_eq : ∀ cell, first.IsActiveCell cell → second.content cell = first.content cell

namespace SameView

variable {first second : Histogram K C}

theorem alike (same : SameView first second) : Alike first second where
  name_eq := same.name_eq
  title_eq := same.title_eq
  entries_eq := same.entries_eq
  axes_alike := by
    rw [same.axes_eq, List.forall₂_same]
    exact fun axis _ => .refl axis
  content_eq := same.content_eq

theorem dimensions_eq (same : SameView first second) :
    second.dimensions = first.dimensions :=
  same.alike.dimensions_eq

theorem integral_eq (same : SameView first second) :
    second.integral = first.integral :=
  same.alike.integral_eq

theorem statistics_eq
    {N : Type}
    [Scalar N]
    [Narrowing C N]
    [Reductions N]
    (same : SameView first second) :
    second.statistics = first.statistics :=
  same.alike.statistics_eq

/-- Even the cells of a projection that are not active are the same. -/
theorem projection_eq
    (same : SameView first second)
    (keep : List Nat) :
    second.projection keep = first.projection keep := by
  have sameSums : ∀ target, second.accumulate keep target = first.accumulate keep target :=
    fun target => same.alike.foldActive_eq _ target
  have sameAxes : second.keptAxes keep = first.keptAxes keep := by
    rw [keptAxes, keptAxes, same.axes_eq]
  simp only [projection, same.dimensions_eq, same.name_eq, same.title_eq, same.entries_eq,
    sameAxes, sameSums]

end SameView

end PlotBoard.Histogram
