import PlotBoard.Proofs.Histogram.Runs
import PlotBoard.Proofs.Number.Exact

namespace PlotBoard

/-!
# Filling and projecting

A projection of a filled histogram is the histogram over the kept axes, filled with
the kept coordinates of the fills whose bins are active on every axis. In exact
arithmetic the order of these fills makes no difference.
-/

variable {K C : Type} [Scalar K]

/-- A relation to what is made in pairs is a relation between the members of the pairs. -/
theorem forall₂_zipWith_right_iff
    {A B D : Type}
    {Related : A → D → Prop}
    {combine : A → B → D}
    {firsts : List A}
    {seconds : List B}
    (sameLength : seconds.length = firsts.length) :
    List.Forall₂ Related firsts (firsts.zipWith combine seconds) ↔
      List.Forall₂ (fun first second => Related first (combine first second)) firsts seconds := by
  induction firsts generalizing seconds with
  | nil =>
      rw [List.eq_nil_of_length_eq_zero sameLength]
      exact ⟨fun _ => .nil, fun _ => .nil⟩
  | cons first rest inductionHypothesis =>
      obtain ⟨second, others, rfl⟩ := List.exists_cons_of_length_eq_add_one sameLength
      have sameRest : others.length = rest.length := Nat.succ.inj sameLength
      rw [List.zipWith_cons_cons, List.forall₂_cons, List.forall₂_cons,
        inductionHypothesis sameRest]

/-- Picking from two lists alike picks from what is made of their members in pairs. -/
theorem map_some_zipWith_kept
    {A B D : Type}
    {firsts chosenFirsts : List A}
    {seconds chosenSeconds : List B}
    {keep : List Nat}
    (combine : A → B → D)
    (firstsKept : chosenFirsts.map some = keep.map fun place => firsts[place]?)
    (secondsKept : chosenSeconds.map some = keep.map fun place => seconds[place]?) :
    (chosenFirsts.zipWith combine chosenSeconds).map some =
      keep.map fun place => (firsts.zipWith combine seconds)[place]? := by
  induction keep generalizing chosenFirsts chosenSeconds with
  | nil =>
      rw [List.map_nil, List.map_eq_nil_iff] at firstsKept
      rw [firstsKept]
      rfl
  | cons place rest inductionHypothesis =>
      rw [List.map_cons] at firstsKept secondsKept
      obtain ⟨first, otherFirsts, rfl, firstFound, otherFirstsKept⟩ :=
        List.map_eq_cons_iff.mp firstsKept
      obtain ⟨second, otherSeconds, rfl, secondFound, otherSecondsKept⟩ :=
        List.map_eq_cons_iff.mp secondsKept
      have others := inductionHypothesis otherFirstsKept otherSecondsKept
      simp only [List.zipWith_cons_cons, List.map_cons, List.getElem?_zipWith, ← firstFound,
        ← secondFound] at others ⊢
      rw [others]

variable [Scalar C]

namespace Fill

/-- There is one coordinate for each axis, and its bin is active there. -/
def IsActive (axes : List (Axis K)) (fill : Fill K C) : Prop :=
  List.Forall₂ (fun axis coordinate => axis.isActive (axis.findBin coordinate) = true) axes
    fill.coordinates

instance (axes : List (Axis K)) (fill : Fill K C) : Decidable (fill.IsActive axes) :=
  inferInstanceAs (Decidable (List.Forall₂ _ axes fill.coordinates))

/-- The fill with the coordinates along the kept axes only. -/
def kept (keep : List Nat) (fill : Fill K C) : Fill K C :=
  { fill with coordinates := keep.filterMap fun axis => fill.coordinates[axis]? }

/-- An active fill is one that falls into an active cell. -/
theorem isActive_iff
    {histogram : Histogram K C}
    {fill : Fill K C} :
    fill.IsActive histogram.axes ↔
      ∃ cell, fill.bins? histogram.edges = some cell ∧ histogram.IsActiveCell cell := by
  constructor
  · intro active
    have sameLength : fill.coordinates.length = histogram.edges.length := by
      rw [histogram.length_edges, Histogram.dimensions, active.length_eq]
    refine ⟨_, bins?_eq_some_iff.mpr ⟨sameLength, histogram.zipWith_findBin_edges _⟩, ?_⟩
    exact (forall₂_zipWith_right_iff active.length_eq.symm).mpr active
  · rintro ⟨cell, found, active⟩
    obtain ⟨sameLength, rfl⟩ := bins?_eq_some_iff.mp found
    rw [histogram.zipWith_findBin_edges] at active
    rw [histogram.length_edges] at sameLength
    exact (forall₂_zipWith_right_iff sameLength).mp active

/-- Where a kept fill falls is kept of where the fill falls. -/
theorem bins?_kept
    {rows keptRows : List (Edges K)}
    {fill : Fill K C}
    {bins keep : List Nat}
    (inRange : ∀ axis ∈ keep, axis < rows.length)
    (rowsKept : keptRows.map some = keep.map fun axis => rows[axis]?)
    (found : fill.bins? rows = some bins) :
    ∃ keptBins,
      (fill.kept keep).bins? keptRows = some keptBins ∧
        keptBins.map some = keep.map fun axis => bins[axis]? := by
  obtain ⟨sameLength, rfl⟩ := bins?_eq_some_iff.mp found
  have coordinatesKept :
      (fill.kept keep).coordinates.map some =
        keep.map fun axis => fill.coordinates[axis]? := by
    apply Histogram.map_some_filterMap_getElem?
    rw [sameLength]
    exact inRange
  have keptLength : (fill.kept keep).coordinates.length = keptRows.length := by
    have first := congrArg List.length coordinatesKept
    have second := congrArg List.length rowsKept
    simp only [List.length_map] at first second
    rw [first, second]
  exact
    ⟨_, bins?_eq_some_iff.mpr ⟨keptLength, rfl⟩,
      map_some_zipWith_kept Edges.findBin rowsKept coordinatesKept⟩

end Fill

namespace Histogram

/-- The histogram after fills, one after the other. -/
def fillAll (histogram : Histogram K C) (fills : List (Fill K C)) : Histogram K C :=
  histogram.run (fills.map Change.fill)

/-- Fills change no axis. -/
theorem axes_fillAll (histogram : Histogram K C) (fills : List (Fill K C)) :
    (histogram.fillAll fills).axes = histogram.axes := by
  induction fills generalizing histogram with
  | nil => rfl
  | cons fill rest inductionHypothesis =>
      refine (inductionHypothesis (histogram.after (.fill fill))).trans ?_
      by_cases fits : Change.Fits histogram.edges (.fill fill)
      · rw [after_of_fits fits]
        exact (sameFrame_modifyCell _ _ _).axes_eq
      · rw [after_of_not_fits fits]

/-- A cell of a new histogram holds the sum of the weights of the fills that fall into it. -/
theorem content_fillAll
    {name : String}
    {axes : List (Axis K)}
    {start : Histogram K C}
    {cell : List Nat}
    (isNew : IsNew name axes start)
    (isCell : start.IsCell cell)
    (fills : List (Fill K C)) :
    (start.fillAll fills).content cell =
      Scalar.total (fills.filter fun fill => fill.bins? start.edges = some cell) Fill.weight := by
  have notWritten : ∀ value, Change.write cell value ∉ fills.map Change.fill := by simp
  have sameFills : fillsOf (fills.map Change.fill) = fills := by
    simp [fillsOf, List.filterMap_map, Function.comp_def, Change.fill?]
  rw [fillAll, content_run isCell, foldl_onCell_of_not_written notWritten, sameFills,
    isNew.content_eq, Scalar.total]

omit [Scalar C] in
theorem map_some_edges_keptAxes
    {histogram : Histogram K C}
    {keep : List Nat}
    (inRange : ∀ axis ∈ keep, axis < histogram.dimensions) :
    ((histogram.keptAxes keep).map Axis.edges).map some =
      keep.map fun axis => histogram.edges[axis]? := by
  have found := congrArg (List.map (Option.map Axis.edges)) (map_some_keptAxes inRange)
  simpa [Function.comp_def, edges] using found

/--
A fill falls into an active cell above a cell of a projection exactly when it is
active and its kept coordinates fall into that cell.
-/
theorem exists_cell_above_iff
    {histogram : Histogram K C}
    {keep target : List Nat}
    {fill : Fill K C}
    (keeps : Keeps histogram.dimensions keep) :
    (∃ cell ∈ histogram.cellsAbove keep target, fill.bins? histogram.edges = some cell) ↔
      (fill.kept keep).bins? ((histogram.keptAxes keep).map Axis.edges) = some target ∧
        fill.IsActive histogram.axes := by
  have rowsKept := map_some_edges_keptAxes keeps.in_range
  have inRange : ∀ axis ∈ keep, axis < histogram.edges.length := by
    rw [histogram.length_edges]
    exact keeps.in_range
  constructor
  · rintro ⟨cell, member, found⟩
    obtain ⟨active, above⟩ := (mem_cellsAbove_iff keeps).mp member
    obtain ⟨keptBins, keptFound, binsKept⟩ := Fill.bins?_kept inRange rowsKept found
    obtain rfl := map_some_injective (binsKept.trans above)
    exact ⟨keptFound, Fill.isActive_iff.mpr ⟨cell, found, active⟩⟩
  · rintro ⟨targetFound, fillActive⟩
    obtain ⟨cell, found, active⟩ := Fill.isActive_iff.mp fillActive
    obtain ⟨keptBins, keptFound, binsKept⟩ := Fill.bins?_kept inRange rowsKept found
    obtain rfl := Option.some.inj (keptFound.symm.trans targetFound)
    exact ⟨cell, (mem_cellsAbove_iff keeps).mpr ⟨active, binsKept.symm⟩, found⟩

variable [Scalar.Exact C]

/-- What lies above a cell of a projection sums to the weights of the fills that are kept there. -/
theorem sumOver_fillAll
    {name : String}
    {axes : List (Axis K)}
    {start : Histogram K C}
    {keep : List Nat}
    (isNew : IsNew name axes start)
    (keeps : Keeps start.dimensions keep)
    (fills : List (Fill K C))
    (target : List Nat) :
    (start.fillAll fills).sumOver (start.cellsAbove keep target) =
      Scalar.total
        (((fills.filter fun fill => fill.IsActive start.axes).map (Fill.kept keep)).filter
          fun fill => fill.bins? ((start.keptAxes keep).map Axis.edges) = some target)
        Fill.weight := by
  calc
    (start.fillAll fills).sumOver (start.cellsAbove keep target)
        = Scalar.total (start.cellsAbove keep target) fun cell =>
            Scalar.total (fills.filter fun fill => fill.bins? start.edges = some cell)
              Fill.weight := by
      apply Scalar.total_congr
      intro cell member
      have active := ((mem_cellsAbove_iff keeps).mp member).1
      exact content_fillAll isNew active.isCell fills
    _ = Scalar.total
          (fills.filter fun fill =>
            ∃ cell ∈ start.cellsAbove keep target, fill.bins? start.edges = some cell)
          Fill.weight :=
      Scalar.total_groups (start.nodup_cellsAbove keep target) fills _ _
    _ = _ := by
      rw [List.filter_map, Scalar.total_map, List.filter_filter]
      simp only [exists_cell_above_iff keeps, Bool.decide_and]
      rfl

/--
A projection of a filled histogram holds in each cell what a new histogram over the
kept axes holds there after it is filled, in any order, with the kept coordinates
and the weights of the fills that are active on every axis.
-/
theorem projection_fillAll
    {name : String}
    {axes : List (Axis K)}
    {start : Histogram K C}
    {keep : List Nat}
    (created : create name axes = .ok start)
    (nonempty : keep ≠ [])
    (keeps : Keeps axes.length keep)
    (fills : List (Fill K C)) :
    ∃ projected,
      (start.fillAll fills).projection keep = .ok projected ∧
        ∀ otherName,
          ∃ fresh : Histogram K C,
            create otherName (keep.filterMap fun axis => axes[axis]?) = .ok fresh ∧
              projected.axes = fresh.axes ∧
              ∀ others,
                others.Perm
                  ((fills.filter fun fill => fill.IsActive axes).map (Fill.kept keep)) →
                ∀ bins,
                  projected.content bins = (fresh.fillAll others).content bins := by
  have isNew := isNew_of_create_eq_ok created
  obtain rfl := isNew.axes_eq
  have filledAxes := start.axes_fillAll fills
  have filledKeeps : Keeps (start.fillAll fills).dimensions keep := by
    rw [dimensions, filledAxes]
    exact keeps
  obtain ⟨projected, found, isProjection⟩ :=
    projection_of_keeps nonempty filledKeeps.length_le filledKeeps
  refine ⟨projected, found, ?_⟩
  intro otherName
  obtain ⟨fresh, freshCreated⟩ := exists_create_keptAxes nonempty keeps otherName
  have freshIsNew := isNew_of_create_eq_ok freshCreated
  have sameAxes : projected.axes = fresh.axes := by
    have axesKept := isProjection.axes_eq
    rw [filledAxes, ← map_some_keptAxes keeps.in_range] at axesKept
    rw [freshIsNew.axes_eq]
    exact map_some_injective axesKept
  refine ⟨fresh, freshCreated, sameAxes, ?_⟩
  intro others permuted bins
  by_cases isCell : projected.IsCell bins
  · have freshIsCell : fresh.IsCell bins := by
      rw [IsCell, shape, ← sameAxes]
      exact isCell
    have sameAbove :
        (start.fillAll fills).cellsAbove keep bins = start.cellsAbove keep bins := by
      rw [cellsAbove, activeCells, filledAxes, cellsAbove, activeCells]
    rw [isProjection.content_eq_sumOver filledKeeps isCell, sameAbove,
      sumOver_fillAll isNew keeps, content_fillAll freshIsNew freshIsCell,
      freshIsNew.edges_eq]
    exact Scalar.total_perm (permuted.symm.filter _) _
  · have filledOutside : ¬(fresh.fillAll others).IsCell bins := by
      rw [IsCell, shape, axes_fillAll, ← sameAxes]
      exact isCell
    rw [content_of_not_isCell isCell, content_of_not_isCell filledOutside]

/-- The second fill is not active, the third is not a number and the last is above its axis. -/
def sampleFills : List (Fill Float Rat) :=
  [{ coordinates := [1.5, 5], weight := 2 },
    { coordinates := [0.5, 5], weight := 3 },
    { coordinates := [0 / 0, 15], weight := 4 },
    { coordinates := [1.75, 5], weight := 1 / 2 },
    { coordinates := [1.5, 40], weight := 8 }]

/-- The first bin of the second axis collects the first fill and the fourth. -/
theorem sampleAxes_projection_fillAll :
    ∃ start projected : Histogram Float Rat,
      create "sample" sampleAxes = .ok start ∧
        (start.fillAll sampleFills).projection [1] = .ok projected ∧
        projected.content [1] = 5 / 2 := by
  have nonempty : sampleAxes ≠ [] := List.cons_ne_nil _ _
  obtain ⟨start, created⟩ := exists_create_eq_ok (C := Rat) nonempty (by decide) "sample"
  obtain ⟨projected, found, filled⟩ :=
    projection_fillAll created (List.cons_ne_nil 1 []) ⟨by decide, by decide⟩ sampleFills
  obtain ⟨fresh, freshCreated, -, sameContent⟩ := filled "kept"
  have freshIsNew := isNew_of_create_eq_ok freshCreated
  have isCell : fresh.IsCell [1] :=
    freshIsNew.isCell_iff.mpr (by decide)
  refine ⟨start, projected, created, found, ?_⟩
  rw [sameContent _ (List.Perm.refl _), content_fillAll freshIsNew isCell,
    freshIsNew.edges_eq]
  decide +kernel

end Histogram

end PlotBoard
