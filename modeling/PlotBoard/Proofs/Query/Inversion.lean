import PlotBoard.Proofs.Axis.BinSearch
import PlotBoard.Proofs.Axis.Ranges
import PlotBoard.Proofs.Query.Bounds
import PlotBoard.Proofs.Query.ShownAxes

namespace PlotBoard

/-!
# Range clauses with falling bounds

A range clause may be written with the greater bound first. Each bound stands for a
bin: a positive integer for the bin of that number, any other integer for what lies
below the axis, and a coordinate for the bin that holds it. When the two bins differ
the clause lifts the restriction of the axis, wherever they lie. Two coordinates may
be held by one bin, and then that bin alone is active.
-/

variable {K C : Type} [Scalar K]

namespace WrittenBounds

/-- The greater bound comes first. -/
def Falling : WrittenBounds K → Prop
  | .integers first last => last < first
  | .coordinates lowest highest => highest < lowest

instance (bounds : WrittenBounds K) : Decidable bounds.Falling :=
  match bounds with
  | .integers first last => inferInstanceAs (Decidable (last < first))
  | .coordinates lowest highest => inferInstanceAs (Decidable (highest < lowest))

/-- The bins that the bounds stand for; a negative integer stands for what lies below the axis. -/
def bins (bounds : WrittenBounds K) (axis : Axis K) : Nat × Nat :=
  match bounds with
  | .integers first last => (first.toNat, last.toNat)
  | .coordinates lowest highest => (axis.findBin lowest, axis.findBin highest)

/-- Restricting an axis by a clause sets the range between the bins of its bounds. -/
theorem restrict_clause (bounds : WrittenBounds K) (axis : Axis K) :
    bounds.clause.restrict axis = axis.setRange (bounds.bins axis).1 (bounds.bins axis).2 := by
  cases bounds <;> rfl

/-- Bins cannot be in rising order when the bounds are in falling order. -/
theorem Falling.bins_le
    [Scalar.Ordered K]
    {bounds : WrittenBounds K}
    (falling : bounds.Falling)
    (axis : Axis K) :
    (bounds.bins axis).2 ≤ (bounds.bins axis).1 := by
  cases bounds with
  | integers first last => exact Int.toNat_le_toNat (Int.le_of_lt falling)
  | coordinates lowest highest =>
      exact axis.edges.findBin_le_findBin (Scalar.Ordered.le_of_lt falling)

end WrittenBounds

namespace Histogram

/-- A clause sets the range of the first axis to the bins of its bounds, and nothing else. -/
theorem applyRange_of_writtenIn
    [ReadsLiterals K]
    {text : String}
    {bounds : WrittenBounds K}
    (written : bounds.WrittenIn text)
    (histogram : Histogram K C) :
    ∃ axis rest after,
      histogram.axes = axis :: rest ∧
        histogram.applyRange text = .ok (some bounds.clause, after) ∧
        after.axes = axis.setRange (bounds.bins axis).1 (bounds.bins axis).2 :: rest := by
  obtain ⟨axis, rest, axesSplit⟩ := List.exists_cons_of_ne_nil histogram.axes_ne_nil
  refine ⟨axis, rest, histogram.restrictAxis 0 (some bounds.clause), axesSplit, ?_, ?_⟩
  · rw [applyRange, written.parse_eq]
    rfl
  · rw [axes_restrictAxis, axesSplit, List.modify_zero_cons, ← bounds.restrict_clause]
    rfl

/--
A clause with its greater bound first lifts the restriction of the first axis, so
that all bins are active, whenever its bounds stand for different bins. Two
coordinates that are held by one bin leave that bin alone active, and none if they
lie outside the axis.
-/
theorem applyRange_of_falling
    [Scalar.Ordered K]
    [ReadsLiterals K]
    {text : String}
    {bounds : WrittenBounds K}
    (written : bounds.WrittenIn text)
    (falling : bounds.Falling)
    (histogram : Histogram K C) :
    ∃ axis rest restricted after,
      histogram.axes = axis :: rest ∧
        histogram.applyRange text = .ok (some bounds.clause, after) ∧
        after.axes = restricted :: rest ∧
        ((bounds.bins axis).1 ≠ (bounds.bins axis).2 →
          restricted.isRestricted = false ∧
            ∀ bin, restricted.isActive bin = true ↔ 1 ≤ bin ∧ bin ≤ axis.bins) ∧
        ∀ lowest highest,
          bounds = .coordinates lowest highest →
            axis.findBin lowest = axis.findBin highest →
              ∀ bin,
                restricted.isActive bin = true ↔
                  (1 ≤ bin ∧ bin ≤ axis.bins) ∧ bin = axis.findBin lowest := by
  obtain ⟨axis, rest, after, axesSplit, applied, axesAfter⟩ :=
    applyRange_of_writtenIn written histogram
  have notRising := falling.bins_le axis
  refine ⟨axis, rest, _, after, axesSplit, applied, axesAfter, ?_, ?_⟩
  · intro apart
    have inverted : ¬(bounds.bins axis).1 ≤ (bounds.bins axis).2 := by
      omega
    constructor
    · rw [← Bool.not_eq_true, Axis.isRestricted_setRange_iff]
      exact inverted
    · intro bin
      rw [Axis.isActive_setRange_iff]
      exact and_iff_left fun rising => absurd rising inverted
  · rintro lowest highest rfl sameBin bin
    rw [Axis.isActive_setRange_iff]
    simp only [WrittenBounds.bins, sameBin]
    omega

/-- Three bins with the first two of them active. -/
def threeBins : Histogram Float Float where
  name := "h"
  title := ""
  axes :=
    [ { edges := ⟨[0, 1, 2, 3], by decide, by decide, by decide⟩
        selection := .span 1 2
        selection_fits := ⟨by decide, by decide, by decide⟩ } ]
  contents := #[1, 2, 3]
  entries := 0
  axes_ne_nil := by decide
  size_contents := by decide
  size_fits := by decide

/-- Coordinates of the third and the first bin make all three bins active. -/
theorem applyRange_threeBins :
    (WrittenBounds.coordinates (2.5 : Float) 0.5).WrittenIn "2.5 , 0.5" ∧
      (WrittenBounds.coordinates (2.5 : Float) 0.5).Falling ∧
      ∃ restricted after,
        threeBins.applyRange "2.5 , 0.5" = .ok (some (.coordinates 2.5 0.5), after) ∧
          after.axes = [restricted] ∧
          restricted.isRestricted = false := by
  have split : "2.5 , 0.5".toList = ['2', '.', '5', ' '] ++ ',' :: [' ', '0', '.', '5'] := rfl
  have written : (WrittenBounds.coordinates (2.5 : Float) 0.5).WrittenIn "2.5 , 0.5" :=
    .coordinates split (by decide) (by decide) (by decide) rfl rfl
  have falling : (WrittenBounds.coordinates (2.5 : Float) 0.5).Falling := by
    decide +kernel
  obtain ⟨axis, rest, restricted, after, axesSplit, applied, axesAfter, lifted, -⟩ :=
    applyRange_of_falling written falling threeBins
  obtain ⟨rfl, rfl⟩ := List.cons.inj axesSplit
  exact ⟨written, falling, restricted, after, applied, axesAfter, (lifted (by decide +kernel)).1⟩

/-- Falling bounds that stand for one bin leave the axis restricted. -/
theorem applyRange_threeBins_of_one_bin :
    ((WrittenBounds.coordinates (2.75 : Float) 2.25).WrittenIn "2.75,2.25" ∧
        (WrittenBounds.coordinates (2.75 : Float) 2.25).Falling ∧
        ∃ restricted after,
          threeBins.applyRange "2.75,2.25" = .ok (some (.coordinates 2.75 2.25), after) ∧
            after.axes = [restricted] ∧
            restricted.isRestricted = true ∧
            restricted.isActive 1 = false) ∧
      (WrittenBounds.integers (-1) (-3) : WrittenBounds Float).WrittenIn "-1,-3" ∧
        (WrittenBounds.integers (-1) (-3) : WrittenBounds Float).Falling ∧
        ∃ restricted after,
          threeBins.applyRange "-1,-3" = .ok (some (.bins 0 0), after) ∧
            after.axes = [restricted] ∧
            restricted.isRestricted = true ∧
            restricted.isActive 1 = false := by
  have coordinateSplit : "2.75,2.25".toList = ['2', '.', '7', '5'] ++ ',' :: ['2', '.', '2', '5'] :=
    rfl
  have integerSplit : "-1,-3".toList = ['-', '1'] ++ ',' :: ['-', '3'] := rfl
  refine ⟨⟨?_, ?_, _, _, rfl, rfl, rfl, rfl⟩, ?_, ?_, _, _, rfl, rfl, rfl, rfl⟩
  · exact .coordinates coordinateSplit (by decide) (by decide) (by decide) rfl rfl
  · decide +kernel
  · exact .integers integerSplit (by decide) (by decide) (by decide) rfl rfl
  · decide

end Histogram

end PlotBoard
