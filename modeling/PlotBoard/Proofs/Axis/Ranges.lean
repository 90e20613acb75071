import PlotBoard.Axis.Basic

namespace PlotBoard

/-!
# Active bins of an axis

Active bins are bins of the axis, and without a restriction all of them are active.
A range that is set leaves the bins active that the axis has and that lie between its
bounds; a range with bounds in falling order leaves all of them active.
-/

namespace Selection

variable {binCount first last : Nat}

theorem between_of_inverted (inverted : last < first) :
    between binCount first last = .all :=
  if_pos inverted

theorem between_of_outside
    (rising : first ≤ last)
    (outside : last = 0 ∨ binCount < first) :
    between binCount first last = .nothing := by
  rw [between, if_neg (Nat.not_lt.mpr rising), if_pos outside]

theorem between_of_overlap
    (rising : first ≤ last)
    (overlap : ¬(last = 0 ∨ binCount < first)) :
    between binCount first last = .span (max first 1) (min last binCount) := by
  rw [between, if_neg (Nat.not_lt.mpr rising), if_neg overlap]

end Selection

variable {K : Type} [Scalar K]

namespace Axis

theorem isActive_iff {axis : Axis K} {bin : Nat} :
    axis.isActive bin = true ↔ axis.range.1 ≤ bin ∧ bin ≤ axis.range.2 := by
  simp [isActive]

/-- Active bins are bins of the axis. -/
theorem mem_bins_of_isActive
    {axis : Axis K}
    {bin : Nat}
    (active : axis.isActive bin = true) :
    1 ≤ bin ∧ bin ≤ axis.bins := by
  have fits := axis.selection_fits
  rw [isActive_iff, range] at active
  cases selected : axis.selection with
  | all =>
      simpa [selected, Selection.range] using active
  | nothing =>
      simp only [selected, Selection.range] at active
      omega
  | span first last =>
      simp only [selected, Selection.range, Selection.Fits] at active fits
      exact ⟨by omega, Nat.le_trans active.2 fits.2.2⟩

/-- Without a restriction all bins are active. -/
theorem isActive_of_unrestricted
    {axis : Axis K}
    (unrestricted : axis.isRestricted = false)
    {bin : Nat}
    (isBin : 1 ≤ bin ∧ bin ≤ axis.bins) :
    axis.isActive bin = true := by
  have all : axis.selection = .all := by
    simpa [isRestricted] using unrestricted
  rw [isActive_iff, range, all]
  exact isBin

theorem pairwise_activeBins (axis : Axis K) :
    axis.activeBins.Pairwise (· < ·) :=
  List.pairwise_lt_range'

/-- Either no bin is active or a rising span of bins of the axis. -/
theorem range_cases (axis : Axis K) :
    axis.range = (1, 0) ∨
      1 ≤ axis.range.1 ∧ axis.range.1 ≤ axis.range.2 ∧ axis.range.2 ≤ axis.bins := by
  have fits := axis.selection_fits
  have someBin := axis.edges.binCount_pos
  rw [range]
  cases selected : axis.selection with
  | all => exact Or.inr ⟨Nat.le_refl 1, someBin, Nat.le_refl _⟩
  | nothing => exact Or.inl rfl
  | span first last =>
      rw [selected] at fits
      exact Or.inr fits

/-- No active bin is counted just when none is active. -/
theorem activeCount_eq_zero_iff {axis : Axis K} :
    axis.activeCount = 0 ↔ ∀ bin, axis.isActive bin = false := by
  simp only [← Bool.not_eq_true, isActive_iff, activeCount]
  constructor
  · intro noneCounted bin active
    omega
  · intro noneActive
    have firstInactive := noneActive axis.range.1
    omega

/-- The active bins are counted among all bins. -/
theorem activeCount_eq_countP (axis : Axis K) :
    axis.activeCount = (List.range' 1 axis.bins).countP axis.isActive := by
  have distinct : axis.activeBins.Nodup :=
    axis.pairwise_activeBins.imp Nat.ne_of_lt
  have othersDistinct : ((List.range' 1 axis.bins).filter axis.isActive).Nodup :=
    List.filter_sublist.nodup List.nodup_range'
  have sameBins :
      axis.activeBins.Perm ((List.range' 1 axis.bins).filter axis.isActive) := by
    rw [List.perm_ext_iff_of_nodup distinct othersDistinct]
    intro bin
    rw [mem_activeBins, List.mem_filter, List.mem_range'_1]
    refine ⟨fun active => ⟨?_, active⟩, And.right⟩
    have isBin := mem_bins_of_isActive active
    omega
  rw [List.countP_eq_length_filter, ← sameBins.length_eq, activeBins, List.length_range']

@[simp] theorem bins_setRange (axis : Axis K) (first last : Nat) :
    (axis.setRange first last).bins = axis.bins :=
  rfl

theorem selection_setRange (axis : Axis K) (first last : Nat) :
    (axis.setRange first last).selection = Selection.between axis.bins first last :=
  rfl

/-- A range restricts the axis unless its bounds are in falling order. -/
theorem isRestricted_setRange_iff
    {axis : Axis K}
    {first last : Nat} :
    (axis.setRange first last).isRestricted = true ↔ first ≤ last := by
  rw [isRestricted, selection_setRange]
  by_cases rising : first ≤ last
  · by_cases outside : last = 0 ∨ axis.bins < first
    · simp [Selection.between_of_outside rising outside, rising]
    · simp [Selection.between_of_overlap rising outside, rising]
  · simp [Selection.between_of_inverted (Nat.lt_of_not_le rising), rising]

/-- Of bounds in rising order the bins between them are active, as far as the axis has them. -/
theorem isActive_setRange_iff
    {axis : Axis K}
    {first last bin : Nat} :
    (axis.setRange first last).isActive bin = true ↔
      (1 ≤ bin ∧ bin ≤ axis.bins) ∧ (first ≤ last → first ≤ bin ∧ bin ≤ last) := by
  rw [isActive_iff, range, selection_setRange, bins_setRange]
  by_cases rising : first ≤ last
  · by_cases outside : last = 0 ∨ axis.bins < first
    · simp only [Selection.between_of_outside rising outside, Selection.range]
      omega
    · simp only [Selection.between_of_overlap rising outside, Selection.range]
      omega
  · simp only [Selection.between_of_inverted (Nat.lt_of_not_le rising), Selection.range]
    omega

/-- Nothing that the axes report differs, except for whether a restriction is in force. -/
structure Alike (first second : Axis K) : Prop where
  edges_eq : second.edges = first.edges
  name_eq : second.name = first.name
  title_eq : second.title = first.title
  style_eq : second.style = first.style
  range_eq : second.range = first.range

namespace Alike

variable {first second : Axis K}

theorem refl (axis : Axis K) : axis.Alike axis :=
  ⟨rfl, rfl, rfl, rfl, rfl⟩

theorem bins_eq (alike : first.Alike second) : second.bins = first.bins :=
  congrArg Edges.binCount alike.edges_eq

theorem isActive_eq (alike : first.Alike second) (bin : Nat) :
    second.isActive bin = first.isActive bin := by
  rw [isActive, isActive, alike.range_eq]

theorem activeCount_eq (alike : first.Alike second) :
    second.activeCount = first.activeCount := by
  rw [activeCount, activeCount, alike.range_eq]

theorem activeBins_eq (alike : first.Alike second) :
    second.activeBins = first.activeBins := by
  rw [activeBins, activeBins, alike.range_eq, alike.activeCount_eq]

/-- Alike axes are equal as soon as they are restricted in the same way. -/
theorem eq_of_selection_eq
    (alike : first.Alike second)
    (sameSelection : second.selection = first.selection) :
    second = first := by
  obtain ⟨sameEdges, sameName, sameTitle, sameStyle, -⟩ := alike
  cases first
  cases second
  simp only at sameEdges sameName sameTitle sameStyle sameSelection
  subst sameEdges sameName sameTitle sameStyle sameSelection
  rfl

end Alike

end Axis

end PlotBoard
