import PlotBoard.Proofs.Histogram.Composition
import PlotBoard.Proofs.Query.ShownAxes
import PlotBoard.Proofs.Render.Visibility
import PlotBoard.Render.Recording

namespace PlotBoard

/-!
# Restricting before and after projecting

A range clause can be applied to an axis of a histogram or to the first axis of a
projection that begins with that axis. If the axis was unrestricted, both give
the same view: over every cell that is active afterwards lie the same cells of the
source, in the same order, and only cells that are not active can differ.
-/

/-- A change at a place that does not matter there does not matter to a relation of lists. -/
theorem forall₂_modify_iff
    {A B : Type}
    {Related : A → B → Prop}
    {change : A → A}
    {firsts : List A}
    {seconds : List B}
    {place : Nat}
    (unchanged :
      ∀ first second,
        firsts[place]? = some first →
        seconds[place]? = some second →
        (Related (change first) second ↔ Related first second)) :
    List.Forall₂ Related (firsts.modify place change) seconds ↔
      List.Forall₂ Related firsts seconds := by
  induction firsts generalizing seconds place with
  | nil => simp
  | cons first firsts inductionHypothesis =>
      cases seconds with
      | nil => cases place <;> simp
      | cons second seconds =>
          cases place with
          | zero =>
              have same := unchanged first second rfl rfl
              simp only [List.modify_zero_cons, List.forall₂_cons, same]
          | succ place =>
              have restUnchanged :
                  ∀ other related,
                    firsts[place]? = some other →
                    seconds[place]? = some related →
                    (Related (change other) related ↔ Related other related) :=
                fun other related found relatedFound =>
                  unchanged other related (by simpa using found) (by simpa using relatedFound)
              simp only [List.modify_succ_cons, List.forall₂_cons,
                inductionHypothesis restUnchanged]

variable {K C : Type} [Scalar K]

namespace Axis

theorem bins_restrictBy (clause : Option (RangeClause K)) (axis : Axis K) :
    (RangeClause.restrictBy clause axis).bins = axis.bins := by
  cases clause with
  | none => rfl
  | some clause => exact clause.bins_restrict axis

end Axis

namespace Histogram

section Restricted

variable
  {source projected before : Histogram K C}
  {axis : Nat}
  {others : List Nat}
  {first : Axis K}
  {clause : Option (RangeClause K)}

/-- Restricting an axis changes nothing but the axis. -/
theorem sameButAxes_restrictAxis
    (histogram : Histogram K C)
    (index : Nat)
    (clause : Option (RangeClause K)) :
    (histogram.restrictAxis index clause).name = histogram.name ∧
      (histogram.restrictAxis index clause).title = histogram.title ∧
      (histogram.restrictAxis index clause).entries = histogram.entries := by
  cases clause <;> exact ⟨rfl, rfl, rfl⟩

theorem dimensions_restrictAxis
    (histogram : Histogram K C)
    {index : Nat}
    (clause : Option (RangeClause K)) :
    (histogram.restrictAxis index clause).dimensions = histogram.dimensions := by
  rw [dimensions, axes_restrictAxis, List.length_modify, dimensions]

/-- Of different axes only the one that is restricted changes. -/
theorem map_getElem?_axes_restrictAxis
    (notAmong : axis ∉ others) :
    (others.map fun other => (source.restrictAxis axis clause).axes[other]?) =
      others.map fun other => source.axes[other]? := by
  apply List.map_congr_left
  intro other member
  have different : axis ≠ other := fun same => notAmong (same ▸ member)
  rw [axes_restrictAxis, List.getElem?_modify_ne _ _ different]

/-- The same cells are active when the bin on the restricted axis is active either way. -/
theorem isActiveCell_restrictAxis_iff
    {cell : List Nat}
    (axisFound : source.axes[axis]? = some first)
    (bothActive :
      ∀ bin,
        cell[axis]? = some bin →
        ((RangeClause.restrictBy clause first).isActive bin = true ↔
          first.isActive bin = true)) :
    (source.restrictAxis axis clause).IsActiveCell cell ↔ source.IsActiveCell cell := by
  rw [IsActiveCell, IsActiveCell, axes_restrictAxis]
  apply forall₂_modify_iff
  intro other bin otherFound binFound
  obtain rfl := Option.some.inj (axisFound.symm.trans otherFound)
  exact bothActive bin binFound

variable [Scalar C]

theorem content_restrictAxis
    (histogram : Histogram K C)
    {index : Nat}
    (clause : Option (RangeClause K))
    (bins : List Nat) :
    (histogram.restrictAxis index clause).content bins = histogram.content bins :=
  content_congr (histogram.shape_restrictAxis clause) (histogram.contents_restrictAxis clause)
    bins

/-- Restricting the first axis of the projection gives the axes of the restricted projection. -/
theorem axes_eq_of_restricted
    (notAmong : axis ∉ others)
    (afterwards : IsProjection source (axis :: others) projected)
    (beforehand : IsProjection (source.restrictAxis axis clause) (axis :: others) before) :
    before.axes = (projected.restrictAxis 0 clause).axes := by
  apply map_some_injective
  obtain ⟨first, rest, axesSplit⟩ := List.exists_cons_of_ne_nil projected.axes_ne_nil
  have kept := afterwards.axes_eq
  rw [axesSplit, List.map_cons, List.map_cons, List.cons.injEq] at kept
  obtain ⟨firstKept, restKept⟩ := kept
  have shown :
      (projected.restrictAxis 0 clause).axes = RangeClause.restrictBy clause first :: rest := by
    rw [axes_restrictAxis, axesSplit, List.modify_zero_cons]
  have restricted :
      (source.restrictAxis axis clause).axes[axis]? =
        some (RangeClause.restrictBy clause first) := by
    rw [axes_restrictAxis, List.getElem?_modify_eq, ← firstKept, Option.map_eq_map, Option.map_some]
  rw [beforehand.axes_eq, shown, List.map_cons, List.map_cons, restricted,
    map_getElem?_axes_restrictAxis notAmong, restKept]

/-- Over an active cell of the restricted projection lie the same cells either way. -/
theorem cellsAbove_restrictAxis
    {target : List Nat}
    (keeps : Keeps source.dimensions (axis :: others))
    (axisFound : source.axes[axis]? = some first)
    (unrestricted : first.isRestricted = false)
    (afterwards : IsProjection source (axis :: others) projected)
    (active : (projected.restrictAxis 0 clause).IsActiveCell target) :
    (source.restrictAxis axis clause).cellsAbove (axis :: others) target =
      source.cellsAbove (axis :: others) target := by
  apply Grid.eq_of_pairwise_precedes
    (pairwise_cellsAbove _ _ _) (source.pairwise_cellsAbove _ _)
  intro cell
  rw [mem_cellsAbove_iff keeps, mem_cellsAbove_iff
    ((source.dimensions_restrictAxis clause).symm ▸ keeps)]
  apply and_congr_left
  intro kept
  apply isActiveCell_restrictAxis_iff axisFound
  intro bin binFound
  -- The bin of the cell on the axis is the first bin of the target, which is active.
  obtain ⟨projectedFirst, rest, axesSplit⟩ :=
    List.exists_cons_of_ne_nil projected.axes_ne_nil
  have firstKept := afterwards.axes_eq
  rw [axesSplit, List.map_cons, List.map_cons, axisFound, List.cons.injEq] at firstKept
  obtain rfl := Option.some.inj firstKept.1
  rw [IsActiveCell, axes_restrictAxis, axesSplit, List.modify_zero_cons] at active
  cases active with
  | @cons _ targetBin _ targetRest firstActive _ =>
      rw [List.map_cons, List.map_cons, binFound, List.cons.injEq] at kept
      obtain rfl := Option.some.inj kept.1
      have isBin := Axis.mem_bins_of_isActive firstActive
      rw [Axis.bins_restrictBy] at isBin
      exact iff_of_true firstActive (Axis.isActive_of_unrestricted unrestricted isBin)

/-- Restricting after and before projecting gives one view. -/
theorem sameView_restrictAxis
    (keeps : Keeps source.dimensions (axis :: others))
    (axisFound : source.axes[axis]? = some first)
    (unrestricted : first.isRestricted = false)
    (afterwards : IsProjection source (axis :: others) projected)
    (beforehand : IsProjection (source.restrictAxis axis clause) (axis :: others) before) :
    SameView (projected.restrictAxis 0 clause) before := by
  obtain ⟨sourceName, sourceTitle, sourceEntries⟩ :=
    source.sameButAxes_restrictAxis axis clause
  obtain ⟨projectedName, projectedTitle, projectedEntries⟩ :=
    projected.sameButAxes_restrictAxis 0 clause
  have sameAxes :=
    axes_eq_of_restricted (List.nodup_cons.mp keeps.distinct).1 afterwards beforehand
  refine
    { name_eq := ?_
      title_eq := ?_
      axes_eq := sameAxes
      entries_eq := ?_
      content_eq := ?_ }
  · rw [beforehand.name_eq, sourceName, projectedName, afterwards.name_eq]
  · rw [beforehand.title_eq, sourceTitle, projectedTitle, afterwards.title_eq]
  · rw [beforehand.entries_eq, sourceEntries, projectedEntries, afterwards.entries_eq]
  · intro cell active
    have restrictedKeeps :
        Keeps (source.restrictAxis axis clause).dimensions (axis :: others) :=
      (source.dimensions_restrictAxis clause).symm ▸ keeps
    have isCell : projected.IsCell cell := by
      have cellAfter := active.isCell
      rw [IsCell, shape_restrictAxis] at cellAfter
      exact cellAfter
    have isCellBefore : before.IsCell cell := by
      have cellAfter := active.isCell
      rw [IsCell, shape, ← sameAxes] at cellAfter
      exact cellAfter
    calc
      before.content cell =
          (source.restrictAxis axis clause).sumOver
            ((source.restrictAxis axis clause).cellsAbove (axis :: others) cell) :=
        beforehand.content_eq_sumOver restrictedKeeps isCellBefore
      _ = (source.restrictAxis axis clause).sumOver
            (source.cellsAbove (axis :: others) cell) := by
        rw [cellsAbove_restrictAxis keeps axisFound unrestricted afterwards active]
      _ = source.sumOver (source.cellsAbove (axis :: others) cell) :=
        Scalar.total_congr fun above _ => source.content_restrictAxis clause above
      _ = projected.content cell := (afterwards.content_eq_sumOver keeps isCell).symm
      _ = (projected.restrictAxis 0 clause).content cell :=
        (projected.content_restrictAxis clause cell).symm

end Restricted

end Histogram

variable {N : Type} [Scalar C] [Scalar N] [Narrowing C N] [Reductions N]

/-- Plots with one view are noted in the same words and drawn as the same frames. -/
theorem Drawable.draw_eq_of_sameView
    {plot other : Drawable K C}
    (same : Histogram.SameView plot.histogram other.histogram)
    (request : DrawRequest) :
    (∀ calls,
      Renderer.recording.draw other request calls =
        Renderer.recording.draw plot request calls) ∧
      ∀ terminal,
        Renderer.terminal.draw other request terminal =
          Renderer.terminal.draw plot request terminal :=
  Drawable.draw_eq_of_alike same.alike request

namespace Histogram

/--
A projection that begins with an unrestricted axis and is then restricted by a
clause, and the projection of the histogram with that axis restricted by the
clause, have the same name, title, fills and axes, and the same content in every
cell that is active; so integrals, further projections and plots are the same.
In the other cells the one keeps what the projection held and the other holds zero.
-/
theorem restrictAxis_projection
    [ReadsLiterals K]
    {source : Histogram K C}
    {axis : Nat}
    {others : List Nat}
    {first : Axis K}
    (keeps : Keeps source.dimensions (axis :: others))
    (axisFound : source.axes[axis]? = some first)
    (unrestricted : first.isRestricted = false)
    (clause : Option (RangeClause K)) :
    ∃ projected after before,
      source.projection (axis :: others) = .ok projected ∧
        after = projected.restrictAxis 0 clause ∧
        (∀ text, RangeClause.parse text = .ok clause →
          projected.applyRange text = .ok (clause, after)) ∧
        (source.restrictAxis axis clause).projection (axis :: others) = .ok before ∧
        before.name = after.name ∧
        before.title = after.title ∧
        before.entries = after.entries ∧
        before.axes = after.axes ∧
        (∀ cell, after.IsActiveCell cell → before.content cell = after.content cell) ∧
        (∀ cell, ¬after.IsActiveCell cell →
          after.content cell = projected.content cell ∧
            before.content cell = ((0 : Nat) : C)) ∧
        before.integral = after.integral ∧
        (∀ keep, before.projection keep = after.projection keep) ∧
        ∀ (plot other : Drawable K C) (request : DrawRequest),
          plot.histogram = after →
            other.histogram = before →
              (∀ calls,
                Renderer.recording.draw other request calls =
                  Renderer.recording.draw plot request calls) ∧
                ∀ terminal,
                  Renderer.terminal.draw other request terminal =
                    Renderer.terminal.draw plot request terminal := by
  have restrictedKeeps : Keeps (source.restrictAxis axis clause).dimensions (axis :: others) :=
    (source.dimensions_restrictAxis clause).symm ▸ keeps
  have nonempty : axis :: others ≠ [] := List.cons_ne_nil axis others
  obtain ⟨projected, projectedFound, afterwards⟩ :=
    projection_of_keeps nonempty keeps.length_le keeps
  obtain ⟨before, beforeFound, beforehand⟩ :=
    projection_of_keeps nonempty restrictedKeeps.length_le restrictedKeeps
  have same := sameView_restrictAxis keeps axisFound unrestricted afterwards beforehand
  refine
    ⟨projected, projected.restrictAxis 0 clause, before, projectedFound, rfl, ?_, beforeFound,
      same.name_eq, same.title_eq, same.entries_eq, same.axes_eq, same.content_eq, ?_,
      same.integral_eq, same.projection_eq, ?_⟩
  · intro text read
    rw [applyRange, read]
    rfl
  · intro cell notActive
    refine ⟨projected.content_restrictAxis clause cell, beforehand.content_inactive cell ?_⟩
    rw [IsActiveCell, same.axes_eq]
    exact notActive
  · intro plot other request isAfter isBefore
    have sameHere : SameView plot.histogram other.histogram := by
      rw [isAfter, isBefore]
      exact same
    exact Drawable.draw_eq_of_sameView sameHere request

/-- Two axes, the first one with two of its three bins active, and six contents. -/
def partlyActive : Histogram Float Float where
  name := "grid"
  title := ""
  axes :=
    [ { edges := ⟨[0, 2, 4, 6], by decide, by decide, by decide⟩
        selection := .span 1 2
        selection_fits := ⟨by decide, by decide, by decide⟩ },
      { edges := ⟨[0, 3, 6], by decide, by decide, by decide⟩ } ]
  contents := #[1, 2, 3, 4, 5, 6]
  entries := 6
  axes_ne_nil := by decide
  size_contents := by decide
  size_fits := by decide

/-- The second axis is kept first and cut to its last bin. -/
theorem partlyActive_restrictAxis_projection :
    ∃ projected after before,
      partlyActive.projection [1, 0] = .ok projected ∧
        projected.applyRange "2,9" = .ok (some (.bins 2 9), after) ∧
        (partlyActive.restrictAxis 1 (some (.bins 2 9))).projection [1, 0] = .ok before ∧
        before.axes = after.axes ∧
        (∀ cell, after.IsActiveCell cell → before.content cell = after.content cell) ∧
        before.integral = after.integral := by
  have keeps : Keeps partlyActive.dimensions [1, 0] := ⟨by decide, by decide⟩
  have read : RangeClause.parse "2,9" = .ok (some (.bins 2 9 : RangeClause Float)) := by
    rfl
  obtain ⟨projected, after, before, projectedFound, -, applied, beforeFound, -, -, -,
      sameAxes, sameContent, -, sameIntegral, -⟩ :=
    restrictAxis_projection keeps rfl rfl (some (.bins 2 9))
  exact
    ⟨projected, after, before, projectedFound, applied "2,9" read, beforeFound, sameAxes,
      sameContent, sameIntegral⟩

end Histogram

end PlotBoard
