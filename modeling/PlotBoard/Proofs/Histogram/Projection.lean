import PlotBoard.Histogram.Projection
import PlotBoard.Proofs.Histogram.Cells

namespace PlotBoard

/-!
# What a projection holds

A projection exists exactly for lists of different axes of the histogram. Each of
its cells holds the sum, in walking order, of the active contents of the source
that lie above it; so cells outside the restrictions hold zero.
-/

variable {K C : Type} [Scalar K]

namespace Histogram

/-- Axis indices that can be kept together: each in range, none repeated. -/
structure Keeps (dimensions : Nat) (keep : List Nat) : Prop where
  in_range : ∀ axis ∈ keep, axis < dimensions
  distinct : keep.Nodup

theorem Keeps.length_le
    {dimensions : Nat}
    {keep : List Nat}
    (keeps : Keeps dimensions keep) :
    keep.length ≤ dimensions := by
  have among : keep ⊆ List.range dimensions :=
    fun axis member => List.mem_range.mpr (keeps.in_range axis member)
  simpa using (keeps.distinct.subperm among).length_le

/-- No index is invalid when all are in range, new and different. -/
theorem firstInvalidAxis?_eq_none_iff
    {dimensions : Nat}
    {earlier keep : List Nat} :
    firstInvalidAxis? dimensions earlier keep = none ↔
      (∀ axis ∈ keep, axis < dimensions ∧ axis ∉ earlier) ∧ keep.Nodup := by
  induction keep generalizing earlier with
  | nil =>
      simp [firstInvalidAxis?]
  | cons axis rest inductionHypothesis =>
      rw [firstInvalidAxis?]
      split
      · next invalid =>
          simp only [reduceCtorEq, List.mem_cons, forall_eq_or_imp, false_iff]
          rintro ⟨⟨⟨below, isNew⟩, -⟩, -⟩
          rcases invalid with outside | repeated
          · omega
          · exact isNew repeated
      · next valid =>
          rw [not_or, Nat.not_le] at valid
          rw [inductionHypothesis, List.nodup_cons]
          constructor
          · rintro ⟨restValid, restDistinct⟩
            refine ⟨?_, ?_, restDistinct⟩
            · intro other member
              rcases List.mem_cons.mp member with rfl | inRest
              · exact valid
              · have otherValid := restValid other inRest
                exact ⟨otherValid.1, fun old => otherValid.2 (by simp [old])⟩
            · intro repeated
              exact (restValid axis repeated).2 (by simp)
          · rintro ⟨allValid, notRepeated, restDistinct⟩
            refine ⟨?_, restDistinct⟩
            intro other member
            have otherValid := allValid other (by simp [member])
            refine ⟨otherValid.1, ?_⟩
            rw [List.mem_cons, not_or]
            exact ⟨fun same => notRepeated (same ▸ member), otherValid.2⟩

/-- The index that is reported comes after valid ones and is out of range or repeated. -/
theorem split_of_firstInvalidAxis?_eq_some
    {dimensions axis : Nat}
    {earlier keep : List Nat}
    (found : firstInvalidAxis? dimensions earlier keep = some axis) :
    ∃ before after,
      keep = before ++ axis :: after ∧
        firstInvalidAxis? dimensions earlier before = none ∧
        (dimensions ≤ axis ∨ axis ∈ earlier ∨ axis ∈ before) := by
  induction keep generalizing earlier with
  | nil =>
      simp [firstInvalidAxis?] at found
  | cons first rest inductionHypothesis =>
      rw [firstInvalidAxis?] at found
      split at found
      · next invalid =>
          obtain rfl := Option.some.inj found
          refine ⟨[], rest, rfl, rfl, ?_⟩
          rcases invalid with outside | repeated
          · exact Or.inl outside
          · exact Or.inr (Or.inl repeated)
      · next valid =>
          obtain ⟨before, after, rfl, beforeValid, reason⟩ := inductionHypothesis found
          refine ⟨first :: before, after, rfl, ?_, ?_⟩
          · rw [firstInvalidAxis?, if_neg valid, beforeValid]
          · rcases reason with outside | inEarlier | inBefore
            · exact Or.inl outside
            · rcases List.mem_cons.mp inEarlier with rfl | old
              · exact Or.inr (Or.inr (by simp))
              · exact Or.inr (Or.inl old)
            · exact Or.inr (Or.inr (by simp [inBefore]))

theorem keeps_iff_firstInvalidAxis?_eq_none
    {dimensions : Nat}
    {keep : List Nat} :
    Keeps dimensions keep ↔ firstInvalidAxis? dimensions [] keep = none := by
  rw [firstInvalidAxis?_eq_none_iff]
  constructor
  · intro keeps
    exact ⟨fun axis member => ⟨keeps.in_range axis member, by simp⟩, keeps.distinct⟩
  · rintro ⟨valid, distinct⟩
    exact ⟨fun axis member => (valid axis member).1, distinct⟩

theorem map_some_injective {A : Type} : Function.Injective (List.map (some : A → Option A)) :=
  List.map_injective_iff.mpr fun _ _ => Option.some.inj

/-- Members at places that a list has are found one by one. -/
theorem map_some_filterMap_getElem?
    {A : Type}
    {items : List A}
    {keep : List Nat}
    (inRange : ∀ place ∈ keep, place < items.length) :
    (keep.filterMap fun place => items[place]?).map some = keep.map fun place => items[place]? := by
  induction keep with
  | nil => rfl
  | cons first rest inductionHypothesis =>
      have below : first < items.length := inRange first (by simp)
      have found : items[first]? = some items[first] := List.getElem?_eq_getElem below
      have restFound := inductionHypothesis fun place member => inRange place (by simp [member])
      simp only [List.filterMap_cons, List.map_cons, found, restFound]

/-- The kept axes are found one by one. -/
theorem map_some_keptAxes
    {histogram : Histogram K C}
    {keep : List Nat}
    (inRange : ∀ axis ∈ keep, axis < histogram.dimensions) :
    (histogram.keptAxes keep).map some = keep.map fun axis => histogram.axes[axis]? :=
  map_some_filterMap_getElem? inRange

/-- A projection never has more cells than the histogram. -/
theorem size_keptAxes_le
    {histogram : Histogram K C}
    {keep : List Nat}
    (keeps : Keeps histogram.dimensions keep) :
    Grid.size ((histogram.keptAxes keep).map Axis.bins) ≤ Grid.size histogram.shape := by
  have sameBins :
      (histogram.keptAxes keep).map Axis.bins =
        keep.map fun axis => histogram.shape[axis]?.getD 1 := by
    have found := congrArg (List.map fun axis? : Option (Axis K) => (axis?.map Axis.bins).getD 1)
      (map_some_keptAxes keeps.in_range)
    simpa [Function.comp_def, shape] using found
  rw [sameBins]
  refine Grid.size_pick_le ?_ keeps.distinct ?_
  · intro count member
    obtain ⟨axis, -, rfl⟩ := List.mem_map.mp member
    exact axis.edges.binCount_pos
  · intro axis member
    simpa [shape, dimensions] using keeps.in_range axis member

/-- The bins of a cell along axes that it has are found one by one. -/
theorem map_some_keptBins
    {keep cell : List Nat}
    (inRange : ∀ axis ∈ keep, axis < cell.length) :
    (keptBins keep cell).map some = keep.map fun axis => cell[axis]? := by
  rw [keptBins, List.map_map]
  apply List.map_congr_left
  intro axis member
  simp [inRange axis member]

/-- What relates two lists place by place relates their members at kept places. -/
theorem forall₂_kept
    {A B : Type}
    {Related : A → B → Prop}
    {firsts chosenFirsts : List A}
    {seconds chosenSeconds : List B}
    {keep : List Nat}
    (related : List.Forall₂ Related firsts seconds)
    (firstsKept : chosenFirsts.map some = keep.map fun place => firsts[place]?)
    (secondsKept : chosenSeconds.map some = keep.map fun place => seconds[place]?) :
    List.Forall₂ Related chosenFirsts chosenSeconds := by
  induction keep generalizing chosenFirsts chosenSeconds with
  | nil =>
      rw [List.map_nil, List.map_eq_nil_iff] at firstsKept secondsKept
      rw [firstsKept, secondsKept]
      exact .nil
  | cons place rest inductionHypothesis =>
      rw [List.map_cons] at firstsKept secondsKept
      obtain ⟨first, otherFirsts, rfl, firstFound, otherFirstsKept⟩ :=
        List.map_eq_cons_iff.mp firstsKept
      obtain ⟨second, otherSeconds, rfl, secondFound, otherSecondsKept⟩ :=
        List.map_eq_cons_iff.mp secondsKept
      obtain ⟨firstBelow, rfl⟩ := List.getElem?_eq_some_iff.mp firstFound.symm
      obtain ⟨secondBelow, rfl⟩ := List.getElem?_eq_some_iff.mp secondFound.symm
      exact .cons (related.get firstBelow secondBelow)
        (inductionHypothesis otherFirstsKept otherSecondsKept)

/-- The kept bins of an active cell are a list of bins when the bins are found there. -/
theorem keptBins_eq_iff
    {source : Histogram K C}
    {keep cell target : List Nat}
    (keeps : Keeps source.dimensions keep)
    (active : source.IsActiveCell cell) :
    keptBins keep cell = target ↔
      (keep.map fun axis => cell[axis]?) = target.map some := by
  have inRange : ∀ axis ∈ keep, axis < cell.length := by
    intro axis member
    rw [← active.length_eq]
    exact keeps.in_range axis member
  rw [← map_some_keptBins inRange]
  exact map_some_injective.eq_iff.symm

/-- The active cells that lie above a cell of a projection, in walking order. -/
def cellsAbove
    (source : Histogram K C)
    (keep target : List Nat) :
    List (List Nat) :=
  source.activeCells.filter fun cell => keptBins keep cell = target

theorem pairwise_cellsAbove
    (source : Histogram K C)
    (keep target : List Nat) :
    (source.cellsAbove keep target).Pairwise Grid.Precedes :=
  source.pairwise_activeCells.filter _

theorem nodup_cellsAbove
    (source : Histogram K C)
    (keep target : List Nat) :
    (source.cellsAbove keep target).Nodup :=
  Grid.nodup_of_pairwise_precedes (source.pairwise_cellsAbove keep target)

theorem mem_cellsAbove_iff
    {source : Histogram K C}
    {keep target cell : List Nat}
    (keeps : Keeps source.dimensions keep) :
    cell ∈ source.cellsAbove keep target ↔
      source.IsActiveCell cell ∧
        (keep.map fun axis => cell[axis]?) = target.map some := by
  rw [cellsAbove, List.mem_filter, mem_activeCells_iff, decide_eq_true_eq]
  exact and_congr_right fun active => keptBins_eq_iff keeps active

/-- What lies below an active cell is active in a projection. -/
theorem IsActiveCell.kept
    {source result : Histogram K C}
    {keep cell target : List Nat}
    (active : source.IsActiveCell cell)
    (axesKept : result.axes.map some = keep.map fun axis => source.axes[axis]?)
    (binsKept : (keep.map fun axis => cell[axis]?) = target.map some) :
    result.IsActiveCell target :=
  forall₂_kept active axesKept binsKept.symm

variable [Scalar C]

/-- Amounts added to cells, one after the other, change nothing but contents. -/
theorem sameFrame_foldl_addToCell
    {A : Type}
    (items : List A)
    (place : A → List Nat)
    (amount : A → C)
    (start : Histogram K C) :
    SameFrame start
      (items.foldl (fun sum item => sum.addToCell (place item) (amount item)) start) := by
  induction items generalizing start with
  | nil => exact ⟨rfl, rfl, rfl, rfl⟩
  | cons item rest inductionHypothesis =>
      have first := sameFrame_modifyCell start (place item) (· + amount item)
      have others := inductionHypothesis (start.addToCell (place item) (amount item))
      exact
        ⟨others.name_eq.trans first.name_eq, others.title_eq.trans first.title_eq,
          others.axes_eq.trans first.axes_eq, others.entries_eq.trans first.entries_eq⟩

/-- A cell collects exactly the amounts added to it, in the order in which they come. -/
theorem content_foldl_addToCell
    {A : Type}
    (items : List A)
    (place : A → List Nat)
    (amount : A → C)
    {start : Histogram K C}
    {target : List Nat}
    (isCell : start.IsCell target) :
    (items.foldl (fun sum item => sum.addToCell (place item) (amount item)) start).content
        target =
      (items.filter fun item => place item = target).foldl
        (fun sum item => sum + amount item) (start.content target) := by
  induction items generalizing start with
  | nil => rfl
  | cons item rest inductionHypothesis =>
      have frame := sameFrame_modifyCell start (place item) (· + amount item)
      have stillCell : (start.addToCell (place item) (amount item)).IsCell target := by
        rw [IsCell, shape, addToCell, frame.axes_eq]
        exact isCell
      rw [List.foldl_cons, inductionHypothesis stillCell, addToCell,
        content_modifyCell isCell]
      by_cases here : place item = target
      · simp [here]
      · simp [here]

/-- Accumulating active contents changes nothing but contents. -/
theorem sameFrame_accumulate
    (source : Histogram K C)
    (keep : List Nat)
    (target : Histogram K C) :
    SameFrame target (source.accumulate keep target) := by
  rw [accumulate, foldActive_eq_foldl]
  exact sameFrame_foldl_addToCell _ _ _ target

/-- Accumulating adds to a cell the active contents above it, in walking order. -/
theorem content_accumulate
    {source target : Histogram K C}
    {bins : List Nat}
    (isCell : target.IsCell bins)
    (keep : List Nat) :
    (source.accumulate keep target).content bins =
      (source.cellsAbove keep bins).foldl
        (fun sum cell => sum + source.content cell) (target.content bins) := by
  rw [accumulate, foldActive_eq_foldl]
  exact content_foldl_addToCell source.activeCells (keptBins keep) source.content isCell

/-- What makes a histogram the projection of another one. -/
structure IsProjection
    (source : Histogram K C)
    (keep : List Nat)
    (result : Histogram K C) :
    Prop where
  name_eq : result.name = source.name ++ "_proj_" ++ "_".intercalate (keep.map toString)
  title_eq : result.title = source.title
  entries_eq : result.entries = source.entries
  axes_eq : result.axes.map some = keep.map fun axis => source.axes[axis]?
  /-- The content of a cell is summed in walking order over the active cells above it. -/
  content_eq :
    ∀ target,
      result.IsCell target →
      ∃ cells,
        cells.Pairwise Grid.Precedes ∧
          (∀ cell,
            cell ∈ cells ↔
              source.IsActiveCell cell ∧
                (keep.map fun axis => cell[axis]?) = target.map some) ∧
          result.content target = source.sumOver cells
  /-- What is not active in the result holds zero. -/
  content_inactive :
    ∀ target,
      ¬result.IsActiveCell target →
      result.content target = ((0 : Nat) : C)

theorem IsProjection.dimensions_eq
    {source result : Histogram K C}
    {keep : List Nat}
    (isProjection : IsProjection source keep result) :
    result.dimensions = keep.length := by
  have sameLength := congrArg List.length isProjection.axes_eq
  simpa [dimensions] using sameLength

/-- The content of a cell of a projection, with the cells that it is summed over. -/
theorem IsProjection.content_eq_sumOver
    {source result : Histogram K C}
    {keep target : List Nat}
    (isProjection : IsProjection source keep result)
    (keeps : Keeps source.dimensions keep)
    (isCell : result.IsCell target) :
    result.content target = source.sumOver (source.cellsAbove keep target) := by
  obtain ⟨cells, ordered, members, sum⟩ := isProjection.content_eq target isCell
  have sameCells : cells = source.cellsAbove keep target := by
    apply Grid.eq_of_pairwise_precedes ordered (source.pairwise_cellsAbove keep target)
    intro cell
    rw [members, ← mem_cellsAbove_iff keeps, cellsAbove]
  rw [sum, sameCells]

/-- Accumulating into zero contents gives the sums over the active cells above. -/
theorem content_accumulate_of_zero
    {source target : Histogram K C}
    {bins : List Nat}
    (isCell : target.IsCell bins)
    (keep : List Nat)
    (zero : ∀ bins, target.content bins = ((0 : Nat) : C)) :
    (source.accumulate keep target).content bins =
      source.sumOver (source.cellsAbove keep bins) := by
  rw [content_accumulate isCell, zero, sumOver]

/-- Accumulating into zero contents over the kept axes gives the projection. -/
theorem isProjection_accumulate
    {source target : Histogram K C}
    {keep : List Nat}
    (keeps : Keeps source.dimensions keep)
    (sameName : target.name = projectionName source.name keep)
    (sameTitle : target.title = source.title)
    (sameAxes : target.axes = source.keptAxes keep)
    (zero : ∀ bins, target.content bins = ((0 : Nat) : C)) :
    IsProjection source keep
      ((source.accumulate keep target).withEntries source.entries) := by
  have frame := sameFrame_accumulate source keep target
  have axesKept :
      (source.accumulate keep target).axes.map some =
        keep.map fun axis => source.axes[axis]? := by
    rw [frame.axes_eq, sameAxes, map_some_keptAxes keeps.in_range]
  have summed :
      ∀ bins,
        (source.accumulate keep target).IsCell bins →
        (source.accumulate keep target).content bins =
          source.sumOver (source.cellsAbove keep bins) := by
    intro bins isCell
    rw [IsCell, shape, frame.axes_eq] at isCell
    exact content_accumulate_of_zero isCell keep zero
  refine
    { name_eq := frame.name_eq.trans sameName
      title_eq := frame.title_eq.trans sameTitle
      entries_eq := rfl
      axes_eq := axesKept
      content_eq := ?_
      content_inactive := ?_ }
  · intro bins isCell
    refine
      ⟨source.cellsAbove keep bins, source.pairwise_cellsAbove keep bins, ?_,
        summed bins isCell⟩
    intro cell
    exact mem_cellsAbove_iff keeps
  · intro bins notActive
    by_cases isCell : (source.accumulate keep target).IsCell bins
    · have nothingAbove : source.cellsAbove keep bins = [] := by
        apply List.eq_nil_iff_forall_not_mem.mpr
        intro cell member
        obtain ⟨active, binsKept⟩ := (mem_cellsAbove_iff keeps).mp member
        exact notActive (active.kept axesKept binsKept)
      have sum := summed bins isCell
      rw [nothingAbove] at sum
      exact sum
    · exact content_of_not_isCell isCell

/-- Different axes of a histogram have a new histogram. -/
theorem exists_create_keptAxes
    {source : Histogram K C}
    {keep : List Nat}
    (nonempty : keep ≠ [])
    (keeps : Keeps source.dimensions keep)
    (name : String) :
    ∃ empty : Histogram K C, create name (source.keptAxes keep) = .ok empty := by
  have axesNonempty : source.keptAxes keep ≠ [] := by
    intro none
    have noneKept := congrArg List.length (map_some_keptAxes keeps.in_range)
    rw [none] at noneKept
    exact nonempty (List.length_eq_zero_iff.mp (by simpa using noneKept.symm))
  have fits : Grid.size ((source.keptAxes keep).map Axis.bins) < UInt64.size :=
    Nat.lt_of_le_of_lt (size_keptAxes_le keeps) source.size_fits
  exact exists_create_eq_ok axesNonempty fits name

/-- Different axes of a histogram can be projected onto. -/
theorem projection_of_keeps
    {source : Histogram K C}
    {keep : List Nat}
    (nonempty : keep ≠ [])
    (notTooMany : keep.length ≤ source.dimensions)
    (keeps : Keeps source.dimensions keep) :
    ∃ result,
      source.projection keep = .ok result ∧ IsProjection source keep result := by
  obtain ⟨empty, created⟩ :=
    exists_create_keptAxes nonempty keeps (projectionName source.name keep)
  have isNew := isNew_of_create_eq_ok created
  have lengthAllowed : ¬(keep = [] ∨ source.dimensions < keep.length) :=
    not_or.mpr ⟨nonempty, Nat.not_lt.mpr notTooMany⟩
  have titledName :
      (empty.withTitle source.title).name = projectionName source.name keep :=
    isNew.name_eq
  refine ⟨_, ?_, isProjection_accumulate keeps titledName rfl isNew.axes_eq isNew.content_eq⟩
  rw [projection, if_neg lengthAllowed, keeps_iff_firstInvalidAxis?_eq_none.mp keeps]
  simp only [created]

/-- A list of the wrong length is reported with both numbers. -/
theorem projection_of_bad_length
    {source : Histogram K C}
    {keep : List Nat}
    (badLength : keep = [] ∨ source.dimensions < keep.length) :
    source.projection keep =
      .error (.tooFewAxes source.name keep.length source.dimensions) := by
  rw [projection, if_pos badLength]

/-- Otherwise the first index that cannot be kept with the ones before it is reported. -/
theorem projection_of_not_keeps
    {source : Histogram K C}
    {keep : List Nat}
    (nonempty : keep ≠ [])
    (notTooMany : keep.length ≤ source.dimensions)
    (notKept : ¬Keeps source.dimensions keep) :
    ∃ before axis after,
      keep = before ++ axis :: after ∧
        Keeps source.dimensions before ∧
        (source.dimensions ≤ axis ∨ axis ∈ before) ∧
        source.projection keep = .error (.invalidAxis axis source.dimensions) := by
  have lengthAllowed : ¬(keep = [] ∨ source.dimensions < keep.length) :=
    not_or.mpr ⟨nonempty, Nat.not_lt.mpr notTooMany⟩
  cases found : firstInvalidAxis? source.dimensions [] keep with
  | none =>
      exact absurd (keeps_iff_firstInvalidAxis?_eq_none.mpr found) notKept
  | some axis =>
      obtain ⟨before, after, split, beforeValid, reason⟩ :=
        split_of_firstInvalidAxis?_eq_some found
      refine
        ⟨before, axis, after, split,
          keeps_iff_firstInvalidAxis?_eq_none.mpr beforeValid, ?_, ?_⟩
      · simpa using reason
      · rw [projection, if_neg lengthAllowed, found]

/-- The three ways in which a projection ends. -/
theorem projection_cases
    (source : Histogram K C)
    (keep : List Nat) :
    source.projection keep =
        .error (.tooFewAxes source.name keep.length source.dimensions) ∨
      (∃ axis, source.projection keep = .error (.invalidAxis axis source.dimensions)) ∨
      ∃ result,
        source.projection keep = .ok result ∧
          keep ≠ [] ∧
          keep.length ≤ source.dimensions ∧
          Keeps source.dimensions keep ∧
          IsProjection source keep result := by
  by_cases badLength : keep = [] ∨ source.dimensions < keep.length
  · exact Or.inl (projection_of_bad_length badLength)
  · obtain ⟨nonempty, notMore⟩ := not_or.mp badLength
    have notTooMany : keep.length ≤ source.dimensions := Nat.not_lt.mp notMore
    by_cases keeps : Keeps source.dimensions keep
    · obtain ⟨result, projected, isProjection⟩ :=
        projection_of_keeps nonempty notTooMany keeps
      exact Or.inr (Or.inr ⟨result, projected, nonempty, notTooMany, keeps, isProjection⟩)
    · obtain ⟨before, axis, after, -, -, -, invalid⟩ :=
        projection_of_not_keeps nonempty notTooMany keeps
      exact Or.inr (Or.inl ⟨axis, invalid⟩)

/-- What is returned is a projection onto axes that can be kept together. -/
theorem isProjection_of_projection_eq_ok
    {source result : Histogram K C}
    {keep : List Nat}
    (projected : source.projection keep = .ok result) :
    keep ≠ [] ∧
      keep.length ≤ source.dimensions ∧
      Keeps source.dimensions keep ∧
      IsProjection source keep result := by
  rcases source.projection_cases keep with tooFew | ⟨axis, invalid⟩ | ⟨other, found, facts⟩
  · rw [tooFew] at projected
    cases projected
  · rw [invalid] at projected
    cases projected
  · obtain rfl := Except.ok.inj (found.symm.trans projected)
    exact facts

/--
A projection succeeds exactly for a list of different axes that is neither empty
nor too long. A list of a bad length is reported with both lengths; any other bad
list with the first index that is out of range or repeats an earlier one, and
never with a fault of the new histogram. What succeeds is the projection.
-/
theorem projection_outcomes
    (source : Histogram K C)
    (keep : List Nat) :
    ((∃ result, source.projection keep = .ok result) ↔
        keep ≠ [] ∧
          keep.length ≤ source.dimensions ∧
          (∀ axis ∈ keep, axis < source.dimensions) ∧
          keep.Nodup) ∧
      (keep = [] ∨ source.dimensions < keep.length →
        source.projection keep =
          .error (.tooFewAxes source.name keep.length source.dimensions)) ∧
      (keep ≠ [] →
        keep.length ≤ source.dimensions →
        ¬((∀ axis ∈ keep, axis < source.dimensions) ∧ keep.Nodup) →
        ∃ before axis after,
          keep = before ++ axis :: after ∧
            Keeps source.dimensions before ∧
            (source.dimensions ≤ axis ∨ axis ∈ before) ∧
            source.projection keep = .error (.invalidAxis axis source.dimensions)) ∧
      (∀ reason, source.projection keep ≠ .error (.invalidHistogram reason)) ∧
      ∀ result,
        source.projection keep = .ok result →
        IsProjection source keep result := by
  refine ⟨⟨?_, ?_⟩, projection_of_bad_length, ?_, ?_, ?_⟩
  · rintro ⟨result, projected⟩
    obtain ⟨nonempty, notTooMany, keeps, -⟩ := isProjection_of_projection_eq_ok projected
    exact ⟨nonempty, notTooMany, keeps.in_range, keeps.distinct⟩
  · rintro ⟨nonempty, notTooMany, inRange, distinct⟩
    obtain ⟨result, projected, -⟩ :=
      projection_of_keeps nonempty notTooMany ⟨inRange, distinct⟩
    exact ⟨result, projected⟩
  · intro nonempty notTooMany notKept
    exact projection_of_not_keeps nonempty notTooMany
      fun keeps => notKept ⟨keeps.in_range, keeps.distinct⟩
  · intro reason refused
    rcases source.projection_cases keep with tooFew | ⟨axis, invalid⟩ | ⟨result, projected, -⟩
    · rw [tooFew] at refused
      cases refused
    · rw [invalid] at refused
      cases refused
    · rw [projected] at refused
      cases refused
  · intro result projected
    obtain ⟨-, -, -, isProjection⟩ := isProjection_of_projection_eq_ok projected
    exact isProjection

end Histogram

end PlotBoard
