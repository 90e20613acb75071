import PlotBoard.Proofs.Axis.Changes
import PlotBoard.Proofs.Histogram.Cells
import PlotBoard.Query.Interpreter

namespace PlotBoard

/-!
# Axes as they are shown

The axes of a drawn projection are axes of the input under the titles that the
labels give them, the first one with the restriction of the range clause. A clause
makes the bins between its bounds active, whatever was active before, and bounds in
falling order make all of them active. Titles and restrictions leave edges, names,
styles and contents as they are.
-/

variable {K C : Type} [Scalar K]

/-- The text found under a key is the first one with that key. -/
theorem LabelTable.get?_eq_some_iff
    {table : LabelTable}
    {key text : String} :
    table.get? key = some text ↔
      ∃ before after,
        table.entries = before ++ (key, text) :: after ∧
          ∀ entry ∈ before, entry.1 ≠ key := by
  rw [get?, Option.map_eq_some_iff]
  constructor
  · rintro ⟨⟨foundKey, foundText⟩, found, rfl⟩
    obtain ⟨sameKey, before, after, split, otherKeys⟩ :=
      List.find?_eq_some_iff_append.mp found
    obtain rfl : foundKey = key := by simpa using sameKey
    exact ⟨before, after, split, fun entry member => by simpa using otherKeys entry member⟩
  · rintro ⟨before, after, split, otherKeys⟩
    refine ⟨(key, text), List.find?_eq_some_iff_append.mpr ?_, rfl⟩
    exact
      ⟨by simp, before, after, split,
        fun entry member => by simpa using otherKeys entry member⟩

namespace RangeClause

/-- The clause lets a bin be active; bounds in falling order let every bin be. -/
def Admits (clause : RangeClause K) (axis : Axis K) (bin : Nat) : Prop :=
  match clause with
  | .bins first last => first ≤ last → first ≤ bin ∧ bin ≤ last
  | .coordinates lowest highest =>
      axis.findBin lowest ≤ axis.findBin highest →
        axis.findBin lowest ≤ bin ∧ bin ≤ axis.findBin highest

/-- A clause makes those bins of the axis active that it admits. -/
theorem isActive_restrict_iff
    {clause : RangeClause K}
    {axis : Axis K}
    {bin : Nat} :
    (clause.restrict axis).isActive bin = true ↔
      (1 ≤ bin ∧ bin ≤ axis.bins) ∧ clause.Admits axis bin := by
  cases clause with
  | bins first last => exact Axis.isActive_setRange_iff
  | coordinates lowest highest => exact Axis.isActive_setRange_iff

/-- Coordinates in rising order make the bins active that hold a coordinate between them. -/
theorem isActive_restrict_coordinates_iff
    [Scalar.Ordered K]
    {lowest highest : K}
    (isNumber : lowest ≤ lowest)
    (rising : lowest ≤ highest)
    {axis : Axis K}
    {bin : Nat} :
    ((coordinates lowest highest).restrict axis).isActive bin = true ↔
      ∃ coordinate,
        axis.edges.Holds bin coordinate ∧ lowest ≤ coordinate ∧ coordinate ≤ highest := by
  by_cases isBin : 1 ≤ bin ∧ bin ≤ axis.bins
  · obtain ⟨low, up, lowFound, upFound⟩ := Edges.exists_edges_of_bin isBin.1 isBin.2
    simp only [Edges.Holds, lowFound, upFound]
    exact Axis.isActive_setCoordinateRange_iff lowFound upFound isNumber rising
  · apply iff_of_false
    · exact fun active => isBin (isActive_restrict_iff.mp active).1
    · exact fun ⟨coordinate, held, _⟩ => isBin (Edges.holds_iff.mp held).1

/-- The axis restricted by a clause, if there is one. -/
def restrictBy (clause : Option (RangeClause K)) (axis : Axis K) : Axis K :=
  match clause with
  | some clause => clause.restrict axis
  | none => axis

/--
The axis at a place of a drawn projection, as far as its restriction goes: a
clause restricts an unrestricted copy of the first axis, and every other axis
stays as it is.
-/
def restrictAt : Nat → Option (RangeClause K) → Axis K → Axis K
  | 0, some clause, axis => clause.restrict axis.resetRange
  | _, _, axis => axis

theorem restrictAt_of_kept
    {place : Nat}
    {clause : Option (RangeClause K)}
    (kept : place ≠ 0 ∨ clause = none)
    (axis : Axis K) :
    restrictAt place clause axis = axis := by
  cases place with
  | zero =>
      obtain rfl := kept.resolve_left fun first => first rfl
      rfl
  | succ place => rfl

/-- A restriction changes nothing but what is active. -/
theorem sameFrame_restrictAt
    (place : Nat)
    (clause : Option (RangeClause K))
    (axis : Axis K) :
    (restrictAt place clause axis).edges = axis.edges ∧
      (restrictAt place clause axis).name = axis.name ∧
      (restrictAt place clause axis).style = axis.style := by
  cases place with
  | zero =>
      cases clause with
      | none => exact ⟨rfl, rfl, rfl⟩
      | some clause => cases clause <;> exact ⟨rfl, rfl, rfl⟩
  | succ place => exact ⟨rfl, rfl, rfl⟩

end RangeClause

namespace Histogram

theorem axes_restrictAxis
    (histogram : Histogram K C)
    {index : Nat}
    (clause : Option (RangeClause K)) :
    (histogram.restrictAxis index clause).axes =
      histogram.axes.modify index (RangeClause.restrictBy clause) := by
  cases clause with
  | none =>
      have identity : RangeClause.restrictBy (none : Option (RangeClause K)) = id := rfl
      rw [identity, List.modify_id, restrictAxis]
  | some clause => rfl

theorem contents_restrictAxis
    (histogram : Histogram K C)
    {index : Nat}
    (clause : Option (RangeClause K)) :
    (histogram.restrictAxis index clause).contents = histogram.contents := by
  cases clause <;> rfl

theorem shape_restrictAxis
    (histogram : Histogram K C)
    {index : Nat}
    (clause : Option (RangeClause K)) :
    (histogram.restrictAxis index clause).shape = histogram.shape := by
  cases clause with
  | none => rfl
  | some clause => exact map_bins_modify histogram.axes index clause.bins_restrict

end Histogram

namespace Interpreter

/-- The axis as the interpreter titles it. -/
def showAxis (interpreter : Interpreter K C) (axis : Axis K) : Axis K :=
  match interpreter.activeLabels with
  | none => axis
  | some labels => titledAxis labels axis

/-- The labels give axes of a name a title, if labels are to be used. -/
def Titles (interpreter : Interpreter K C) (axisName title : String) : Prop :=
  interpreter.settings.axisTitles = true ∧
    axisName ≠ "" ∧
    ∃ labels before after,
      interpreter.labels = some labels ∧
        labels.entries = before ++ (axisName ++ ".AxisTitle", title) :: after ∧
        ∀ entry ∈ before, entry.1 ≠ axisName ++ ".AxisTitle"

/-- An axis of the input as it is shown at a place of the drawn projection. -/
structure Shows
    (interpreter : Interpreter K C)
    (place : Nat)
    (clause : Option (RangeClause K))
    (source shown : Axis K) :
    Prop where
  edges_eq : shown.edges = source.edges
  name_eq : shown.name = source.name
  style_eq : shown.style = source.style
  title_eq_of_titles : ∀ title, interpreter.Titles source.name title → shown.title = title
  title_eq_of_not_titles :
    (∀ title, ¬interpreter.Titles source.name title) → shown.title = source.title
  selection_eq : shown.selection = (RangeClause.restrictAt place clause source).selection
  range_eq : shown.range = (RangeClause.restrictAt place clause source).range
  /-- Without a clause, and behind the first axis, what was active stays active. -/
  selection_eq_of_kept :
    place ≠ 0 ∨ clause = none →
    shown.selection = source.selection ∧ shown.range = source.range
  /-- Of the first axis, those bins are active that the clause admits. -/
  isActive_iff_of_clause :
    place = 0 →
    ∀ restriction,
      clause = some restriction →
      ∀ bin,
        shown.isActive bin = true ↔
          (1 ≤ bin ∧ bin ≤ source.bins) ∧ restriction.Admits source bin
  isActive_iff_of_coordinates :
    place = 0 →
    ∀ [Scalar.Ordered K] (lowest highest : K),
      clause = some (.coordinates lowest highest) →
      lowest ≤ lowest →
      lowest ≤ highest →
      ∀ bin,
        shown.isActive bin = true ↔
          ∃ coordinate,
            source.edges.Holds bin coordinate ∧ lowest ≤ coordinate ∧ coordinate ≤ highest

theorem activeLabels_eq_some_iff
    {interpreter : Interpreter K C}
    {labels : LabelTable} :
    interpreter.activeLabels = some labels ↔
      interpreter.settings.axisTitles = true ∧ interpreter.labels = some labels := by
  rw [activeLabels]
  split
  · next enabled => simp [enabled]
  · next disabled => simp [disabled]

/-- Titling is the same change for every axis. -/
theorem axes_titled
    (interpreter : Interpreter K C)
    (histogram : Histogram K C) :
    (interpreter.titled histogram).axes = histogram.axes.map interpreter.showAxis := by
  cases active : interpreter.activeLabels with
  | none =>
      have identity : interpreter.showAxis = id := by
        funext axis
        simp [showAxis, active]
      rw [identity, List.map_id]
      simp [titled, active]
  | some labels =>
      have sameChange : interpreter.showAxis = titledAxis labels := by
        funext axis
        simp [showAxis, active]
      simp [titled, active, sameChange, Histogram.mapAxes]

theorem contents_titled
    (interpreter : Interpreter K C)
    (histogram : Histogram K C) :
    (interpreter.titled histogram).contents = histogram.contents := by
  unfold titled
  split <;> rfl

/-- Titling an axis changes nothing but its title. -/
theorem showAxis_eq_withTitle
    (interpreter : Interpreter K C)
    (axis : Axis K) :
    interpreter.showAxis axis = axis.withTitle (interpreter.showAxis axis).title := by
  unfold showAxis
  split
  · rfl
  · unfold titledAxis
    split
    · rfl
    · split <;> rfl

theorem bins_showAxis
    (interpreter : Interpreter K C)
    (axis : Axis K) :
    (interpreter.showAxis axis).bins = axis.bins := by
  rw [showAxis_eq_withTitle]
  rfl

/-- The title that the labels give is shown. -/
theorem title_showAxis_of_titles
    {interpreter : Interpreter K C}
    {axis : Axis K}
    {title : String}
    (titles : interpreter.Titles axis.name title) :
    (interpreter.showAxis axis).title = title := by
  obtain ⟨enabled, named, labels, before, after, present, split, otherKeys⟩ := titles
  have active : interpreter.activeLabels = some labels :=
    activeLabels_eq_some_iff.mpr ⟨enabled, present⟩
  have found : labels.axisTitle? axis.name = some title :=
    LabelTable.get?_eq_some_iff.mpr ⟨before, after, split, otherKeys⟩
  simp [showAxis, active, titledAxis, named, found, Axis.withTitle]

/-- An axis to which the labels give no title keeps the one it has. -/
theorem title_showAxis_of_not_titles
    {interpreter : Interpreter K C}
    {axis : Axis K}
    (notTitled : ∀ title, ¬interpreter.Titles axis.name title) :
    (interpreter.showAxis axis).title = axis.title := by
  cases active : interpreter.activeLabels with
  | none =>
      simp [showAxis, active]
  | some labels =>
      by_cases named : axis.name = ""
      · simp [showAxis, active, titledAxis, named]
      · cases found : labels.axisTitle? axis.name with
        | none =>
            simp [showAxis, active, titledAxis, named, found]
        | some title =>
            obtain ⟨enabled, present⟩ := activeLabels_eq_some_iff.mp active
            obtain ⟨before, after, split, otherKeys⟩ :=
              LabelTable.get?_eq_some_iff.mp found
            exact absurd
              ⟨enabled, named, labels, before, after, present, split, otherKeys⟩
              (notTitled title)

/-- The axis shown for an axis of the projected input. -/
def shownAxis
    (interpreter : Interpreter K C)
    (clause : Option (RangeClause K))
    (place : Nat)
    (axis : Axis K) :
    Axis K :=
  if place = 0 then
    RangeClause.restrictBy clause (interpreter.showAxis axis)
  else
    interpreter.showAxis axis

/-- A titled and restricted histogram shows each of its axes. -/
theorem getElem?_axes_shown
    (interpreter : Interpreter K C)
    (clause : Option (RangeClause K))
    (histogram : Histogram K C)
    (place : Nat) :
    ((interpreter.titled histogram).restrictAxis 0 clause).axes[place]? =
      histogram.axes[place]?.map (interpreter.shownAxis clause place) := by
  rw [Histogram.axes_restrictAxis, axes_titled, List.getElem?_modify, List.getElem?_map]
  cases histogram.axes[place]? with
  | none => rfl
  | some axis =>
      by_cases first : place = 0
      · simp [shownAxis, first]
      · simp [shownAxis, first, Ne.symm first]

/-- Apart from its title, a shown axis is the axis with its new restriction. -/
theorem shownAxis_eq_withTitle
    (interpreter : Interpreter K C)
    (clause : Option (RangeClause K))
    (place : Nat)
    (source : Axis K) :
    interpreter.shownAxis clause place source =
      (RangeClause.restrictAt place clause source).withTitle
        (interpreter.showAxis source).title := by
  rw [shownAxis, showAxis_eq_withTitle]
  cases place with
  | zero =>
      cases clause with
      | none => rfl
      | some clause => cases clause <;> rfl
  | succ place => rfl

/-- The axes of a drawn projection are shown as they should be. -/
theorem shows_shownAxis
    (interpreter : Interpreter K C)
    (clause : Option (RangeClause K))
    (place : Nat)
    (source : Axis K) :
    interpreter.Shows place clause source (interpreter.shownAxis clause place source) := by
  have sameButTitle := interpreter.shownAxis_eq_withTitle clause place source
  have restricted := RangeClause.sameFrame_restrictAt place clause source
  have sameActive (bin : Nat) :
      (interpreter.shownAxis clause place source).isActive bin =
        (RangeClause.restrictAt place clause source).isActive bin := by
    rw [sameButTitle]
    rfl
  refine
    { edges_eq := ?_
      name_eq := ?_
      style_eq := ?_
      title_eq_of_titles := ?_
      title_eq_of_not_titles := ?_
      selection_eq := ?_
      range_eq := ?_
      selection_eq_of_kept := ?_
      isActive_iff_of_clause := ?_
      isActive_iff_of_coordinates := ?_ }
  · rw [sameButTitle]
    exact restricted.1
  · rw [sameButTitle]
    exact restricted.2.1
  · rw [sameButTitle]
    exact restricted.2.2
  · intro title titles
    rw [sameButTitle]
    exact title_showAxis_of_titles titles
  · intro notTitled
    rw [sameButTitle]
    exact title_showAxis_of_not_titles notTitled
  · rw [sameButTitle]
    rfl
  · rw [sameButTitle]
    rfl
  · intro kept
    rw [sameButTitle, RangeClause.restrictAt_of_kept kept]
    exact ⟨rfl, rfl⟩
  · rintro rfl restriction rfl bin
    rw [sameActive]
    exact RangeClause.isActive_restrict_iff
  · rintro rfl _ lowest highest rfl isNumber rising bin
    rw [sameActive]
    exact RangeClause.isActive_restrict_coordinates_iff isNumber rising

/-- The numbers of bins along the axes stay as they are. -/
theorem shape_shown
    (interpreter : Interpreter K C)
    (clause : Option (RangeClause K))
    (histogram : Histogram K C) :
    ((interpreter.titled histogram).restrictAxis 0 clause).shape = histogram.shape := by
  rw [Histogram.shape_restrictAxis, Histogram.shape, axes_titled, List.map_map,
    Histogram.shape]
  apply List.map_congr_left
  intro axis _
  exact interpreter.bins_showAxis axis

theorem dimensions_shown
    (interpreter : Interpreter K C)
    (clause : Option (RangeClause K))
    (histogram : Histogram K C) :
    ((interpreter.titled histogram).restrictAxis 0 clause).dimensions =
      histogram.dimensions := by
  have sameLength := congrArg List.length (interpreter.shape_shown clause histogram)
  simpa [Histogram.shape, Histogram.dimensions] using sameLength

/-- A cell stays active when its first bin is active on the axis that is now the first. -/
theorem isActiveCell_shown_iff
    {interpreter : Interpreter K C}
    {clause : Option (RangeClause K)}
    {histogram : Histogram K C}
    {cell : List Nat}
    (active : histogram.IsActiveCell cell) :
    ((interpreter.titled histogram).restrictAxis 0 clause).IsActiveCell cell ↔
      ∃ bin,
        cell.head? = some bin ∧
          ((interpreter.titled histogram).restrictAxis 0 clause).primaryAxis.isActive bin =
            true := by
  obtain ⟨first, rest, split⟩ := List.exists_cons_of_ne_nil histogram.axes_ne_nil
  have axesShown :
      ((interpreter.titled histogram).restrictAxis 0 clause).axes =
        interpreter.shownAxis clause 0 first :: rest.map interpreter.showAxis := by
    rw [Histogram.axes_restrictAxis, axes_titled, split]
    rfl
  have primaryShown :
      ((interpreter.titled histogram).restrictAxis 0 clause).primaryAxis =
        interpreter.shownAxis clause 0 first := by
    simp only [Histogram.primaryAxis, axesShown, List.head_cons]
  rw [Histogram.IsActiveCell, split] at active
  rw [Histogram.IsActiveCell, axesShown, primaryShown]
  cases active with
  | @cons _ bin _ others _ othersActive =>
      have othersShown :
          List.Forall₂ (fun axis bin => axis.isActive bin = true)
            (rest.map interpreter.showAxis) others := by
        rw [List.forall₂_map_left_iff]
        refine othersActive.imp fun axis other otherActive => ?_
        rw [showAxis_eq_withTitle]
        exact otherActive
      simp [othersShown]

variable [Scalar C]

/-- Titles and restrictions leave contents as they are. -/
theorem content_shown
    (interpreter : Interpreter K C)
    (clause : Option (RangeClause K))
    (histogram : Histogram K C)
    (bins : List Nat) :
    ((interpreter.titled histogram).restrictAxis 0 clause).content bins =
      histogram.content bins :=
  Histogram.content_congr (interpreter.shape_shown clause histogram)
    ((Histogram.contents_restrictAxis _ clause).trans (interpreter.contents_titled histogram))
    bins

end Interpreter

end PlotBoard
