import PlotBoard.Proofs.Axis.BinSearch
import PlotBoard.Proofs.Axis.Positions
import PlotBoard.Proofs.Axis.Ranges

namespace PlotBoard

/-!
# Changes of an axis

The active bins of an axis are set and reset in any order, and its title and its style
are changed in between. Whatever came before, the last call that sets them decides which
bins are active: of two bins the span between them, and of two coordinates all bins that
have a coordinate between them.
-/

variable {K : Type} [Scalar K]

/-- A change of the active bins, the title or the style of an axis. -/
inductive AxisChange (K : Type) where
  | span (first last : Nat)
  | interval (lowest highest : K)
  | everything
  | title (text : String)
  | style (chosen : AxisStyle)
  | timeDisplay (format : String)

namespace AxisChange

/-- The axis after a change. -/
def apply (change : AxisChange K) (axis : Axis K) : Axis K :=
  match change with
  | .span first last => axis.setRange first last
  | .interval lowest highest => axis.setCoordinateRange lowest highest
  | .everything => axis.resetRange
  | .title text => axis.withTitle text
  | .style chosen => axis.withStyle chosen
  | .timeDisplay format => axis.showTime format

/-- The change sets or resets the active bins. -/
def isSelection : AxisChange K → Bool
  | .span _ _ => true
  | .interval _ _ => true
  | .everything => true
  | .title _ => false
  | .style _ => false
  | .timeDisplay _ => false

theorem edges_apply (change : AxisChange K) (axis : Axis K) :
    (change.apply axis).edges = axis.edges := by
  cases change <;> rfl

theorem bins_apply (change : AxisChange K) (axis : Axis K) :
    (change.apply axis).bins = axis.bins :=
  congrArg Edges.binCount (change.edges_apply axis)

/-- What a change selects depends on nothing but the edges. -/
theorem selection_apply_congr
    {change : AxisChange K}
    (selects : change.isSelection = true)
    {axis other : Axis K}
    (sameEdges : axis.edges = other.edges) :
    (change.apply axis).selection = (change.apply other).selection := by
  cases change with
  | span first last => simp only [apply, Axis.selection_setRange, Axis.bins, sameEdges]
  | interval lowest highest =>
      simp only [apply, Axis.setCoordinateRange, Axis.selection_setRange, Axis.bins,
        Axis.findBin, sameEdges]
  | everything => rfl
  | title text => cases selects
  | style chosen => cases selects
  | timeDisplay format => cases selects

end AxisChange

namespace Axis

/-- The axis after changes, one after the other. -/
def run (axis : Axis K) (changes : List (AxisChange K)) : Axis K :=
  changes.foldl (fun current change => change.apply current) axis

/-- No change moves an edge. -/
theorem edges_run (axis : Axis K) (changes : List (AxisChange K)) :
    (axis.run changes).edges = axis.edges := by
  induction changes generalizing axis with
  | nil => rfl
  | cons change rest inductionHypothesis =>
      exact (inductionHypothesis (change.apply axis)).trans (change.edges_apply axis)

theorem run_append_singleton
    (axis : Axis K)
    (changes : List (AxisChange K))
    (change : AxisChange K) :
    axis.run (changes ++ [change]) = change.apply (axis.run changes) :=
  List.foldl_append

end Axis

section Ordered

variable [Scalar.Ordered K]

/-- A bin and an interval share a coordinate unless one of them ends before the other begins. -/
theorem exists_shared_coordinate_iff
    {low up lowest highest : K}
    (lowFinite : Scalar.isFinite low = true)
    (isBin : low < up)
    (isNumber : lowest ≤ lowest)
    (rising : lowest ≤ highest) :
    (∃ coordinate,
      (low ≤ coordinate ∧ coordinate < up) ∧ lowest ≤ coordinate ∧ coordinate ≤ highest) ↔
      low ≤ highest ∧ lowest < up := by
  constructor
  · rintro ⟨coordinate, ⟨aboveLow, belowUp⟩, aboveLowest, belowHighest⟩
    exact
      ⟨Scalar.Ordered.le_trans aboveLow belowHighest,
        Scalar.Ordered.lt_of_le_of_lt aboveLowest belowUp⟩
  · rintro ⟨lowBelow, lowestBelow⟩
    -- The greater one of the two lower ends lies in both.
    have lowIsNumber := Scalar.Ordered.le_self_of_isFinite lowFinite
    rcases Scalar.Ordered.le_total lowIsNumber isNumber with lowFirst | lowestFirst
    · exact ⟨lowest, ⟨lowFirst, lowestBelow⟩, isNumber, rising⟩
    · exact ⟨low, ⟨lowIsNumber, isBin⟩, lowestFirst, lowBelow⟩

namespace Axis

/-- Two coordinates in rising order select the bins that have a coordinate between them. -/
theorem isActive_setCoordinateRange_iff
    {axis : Axis K}
    {bin : Nat}
    {low up lowest highest : K}
    (lowFound : axis.edges.lowEdge? bin = some low)
    (upFound : axis.edges.upEdge? bin = some up)
    (isNumber : lowest ≤ lowest)
    (rising : lowest ≤ highest) :
    (axis.setCoordinateRange lowest highest).isActive bin = true ↔
      ∃ coordinate,
        (low ≤ coordinate ∧ coordinate < up) ∧ lowest ≤ coordinate ∧ coordinate ≤ highest := by
  obtain ⟨place, rfl, inside, lowValue, upValue⟩ := Edges.exists_place_of_edges lowFound upFound
  have lowMember := List.mem_of_getElem? lowValue
  have upMember := List.mem_of_getElem? upValue
  have isBin : low < up := Edges.lt_of_next lowValue upValue
  have reachesLow : place < axis.findBin highest ↔ low ≤ highest :=
    Edges.lt_findBin_iff_le lowValue highest
  have reachesUp : place + 1 < axis.findBin lowest ↔ up ≤ lowest :=
    Edges.lt_findBin_iff_le upValue lowest
  have binsRising : axis.findBin lowest ≤ axis.findBin highest :=
    axis.edges.findBin_le_findBin rising
  have withinAxis : place + 1 ≤ axis.bins := inside
  rw [exists_shared_coordinate_iff (Edges.finite_of_mem lowMember) isBin isNumber rising,
    Scalar.Ordered.lt_iff_not_le isNumber (Edges.finite_of_mem upMember), ← reachesLow,
    ← reachesUp, setCoordinateRange, isActive_setRange_iff]
  omega

/-- The active bins as they are reported, counted and tested for. -/
structure SelectsBins (axis : Axis K) : Prop where
  range_cases :
    axis.range = (1, 0) ∨
      1 ≤ axis.range.1 ∧ axis.range.1 ≤ axis.range.2 ∧ axis.range.2 ≤ axis.bins
  isActive_iff_range :
    ∀ bin, axis.isActive bin = true ↔ axis.range.1 ≤ bin ∧ bin ≤ axis.range.2
  activeCount_eq :
    axis.activeCount = (List.range' 1 axis.bins).countP axis.isActive
  isBin_of_isActive :
    ∀ bin, axis.isActive bin = true → 1 ≤ bin ∧ bin ≤ axis.bins

/--
Whatever is done to an axis, its active bins are none or a span of its bins. A span
that is set leaves the bins in it active, and an interval of coordinates the bins that
it meets, whatever was active before. What is active after a run depends on nothing
but the last call that set it.
-/
theorem activeBins_run
    (axis : Axis K)
    (changes : List (AxisChange K)) :
    (axis.run changes).edges = axis.edges ∧
      SelectsBins (axis.run changes) ∧
      (∀ first last,
        first ≤ last →
        ∀ bin,
          1 ≤ bin →
          bin ≤ axis.bins →
          ((axis.run (changes ++ [.span first last])).isActive bin = true ↔
            first ≤ bin ∧ bin ≤ last)) ∧
      (∀ lowest highest : K,
        lowest ≤ lowest →
        lowest ≤ highest →
        ∀ bin low up,
          axis.edges.lowEdge? bin = some low →
          axis.edges.upEdge? bin = some up →
          ((axis.run (changes ++ [.interval lowest highest])).isActive bin = true ↔
            ∃ coordinate,
              (low ≤ coordinate ∧ coordinate < up) ∧
                lowest ≤ coordinate ∧ coordinate ≤ highest)) ∧
      ∀ (change : AxisChange K) (others : List (AxisChange K)),
        change.isSelection = true →
        (axis.run (changes ++ [change])).selection =
          (axis.run (others ++ [change])).selection := by
  have sameEdges := axis.edges_run changes
  refine ⟨sameEdges, ?_, ?_, ?_, ?_⟩
  · exact
      { range_cases := range_cases _
        isActive_iff_range := fun _ => isActive_iff
        activeCount_eq := activeCount_eq_countP _
        isBin_of_isActive := fun _ => mem_bins_of_isActive }
  · intro first last rising bin positive within
    have isBin : 1 ≤ bin ∧ bin ≤ (axis.run changes).bins := by
      rw [bins, sameEdges]
      exact ⟨positive, within⟩
    rw [run_append_singleton, AxisChange.apply, isActive_setRange_iff, and_iff_right isBin]
    exact forall_prop_of_true rising
  · intro lowest highest isNumber rising bin low up lowFound upFound
    rw [run_append_singleton]
    rw [← sameEdges] at lowFound upFound
    exact isActive_setCoordinateRange_iff lowFound upFound isNumber rising
  · intro change others selects
    rw [run_append_singleton, run_append_singleton]
    exact change.selection_apply_congr selects (sameEdges.trans (axis.edges_run others).symm)

end Axis

end Ordered

/-- A span and an interval with no lower end, each after another span. -/
theorem Axis.activeBins_run_unequalBins :
    (unequalBins.run [.span 3 9]).SelectsBins ∧
      (unequalBins.run [.span 3 9, .span 0 2]).isActive 2 = true ∧
      (unequalBins.run [.span 3 9, .span 0 2]).isActive 3 = false ∧
      (-1 / 0 : Float) ≤ 1 ∧
      (unequalBins.run [.span 3 9, .interval (-1 / 0) 1]).isActive 2 = true ∧
      (unequalBins.run [.span 3 9, .interval (-1 / 0) 1]).isActive 3 = false ∧
      (unequalBins.run [.span 3 9, .everything]).selection =
        (unequalBins.run [.everything]).selection := by
  obtain ⟨-, selects, spans, intervals, lastWins⟩ := unequalBins.activeBins_run [.span 3 9]
  have lowerEnd : (-1 / 0 : Float) ≤ -1 / 0 := by decide
  have rising : (-1 / 0 : Float) ≤ 1 := by decide
  have inSpan := spans 0 2 (by decide)
  have inInterval := intervals (-1 / 0) 1 lowerEnd rising
  refine
    ⟨selects, (inSpan 2 (by decide) (by decide)).mpr (by decide), ?_, rising,
      (inInterval 2 1 5 rfl rfl).mpr ⟨1, by decide⟩, ?_, lastWins .everything [] rfl⟩
  · rw [← Bool.not_eq_true]
    exact mt (inSpan 3 (by decide) (by decide)).mp (by decide)
  · rw [← Bool.not_eq_true]
    apply mt (inInterval 3 5 6 rfl rfl).mp
    rintro ⟨coordinate, ⟨aboveLow, -⟩, -, belowHighest⟩
    exact absurd (Scalar.Ordered.le_trans aboveLow belowHighest) (by decide)

end PlotBoard
