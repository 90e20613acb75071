import Mathlib.Order.Bounds.Basic
import Mathlib.Tactic.Linarith
import Mathlib.Tactic.Ring
import PlotBoard.Graph
import PlotBoard.Proofs.Axis.Positions
import PlotBoard.Proofs.Number.Extended

namespace PlotBoard

/-!
# Graphs that span their points

Without rounding there is a graph of any list of finite points, and of no other list. Each
of its axes has a hundred bins from the least coordinate to the greatest one. Where these
are the same, or where there is no coordinate at all, an axis still needs some width, which
it then has around the coordinate, or from zero to one.
-/

/-- The interval that an axis spans for some coordinates. -/
inductive Span : List Rat → Rat → Rat → Prop
  | nothing : Span [] 0 1
  | single
      {coordinates : List Rat}
      {value : Rat}
      (nonempty : coordinates ≠ [])
      (allSame : ∀ coordinate ∈ coordinates, coordinate = value) :
      Span coordinates (value - 1 / 2) (value + 1 / 2)
  | between
      {coordinates : List Rat}
      {low high : Rat}
      (least : IsLeast {coordinate | coordinate ∈ coordinates} low)
      (greatest : IsGreatest {coordinate | coordinate ∈ coordinates} high)
      (different : low ≠ high) :
      Span coordinates low high

namespace Span

variable {coordinates : List Rat} {low high : Rat}

theorem low_lt_high (span : Span coordinates low high) : low < high := by
  cases span with
  | nothing => exact one_pos
  | single nonempty allSame => linarith
  | between least greatest different =>
      exact lt_of_le_of_ne (greatest.2 least.1) different

theorem covers
    (span : Span coordinates low high)
    {coordinate : Rat}
    (member : coordinate ∈ coordinates) :
    low ≤ coordinate ∧ coordinate ≤ high := by
  cases span with
  | nothing => cases member
  | single nonempty allSame =>
      rw [allSame coordinate member]
      constructor <;> linarith
  | between least greatest different => exact ⟨least.2 member, greatest.2 member⟩

end Span

theorem foldl_lesser_finite (values : List Rat) (start : Rat) :
    (values.map ExtendedRat.finite).foldl Scalar.lesser (.finite start) =
      .finite (values.foldl min start) := by
  rw [List.foldl_map]
  exact List.foldl_hom ExtendedRat.finite ExtendedRat.lesser_finite

theorem foldl_greater_finite (values : List Rat) (start : Rat) :
    (values.map ExtendedRat.finite).foldl Scalar.greater (.finite start) =
      .finite (values.foldl max start) := by
  rw [List.foldl_map]
  exact List.foldl_hom ExtendedRat.finite ExtendedRat.greater_finite

namespace Graph

/-- The least and the greatest coordinate are found, and made apart if they are the same. -/
theorem exists_span_extent (coordinates : List Rat) :
    ∃ low high,
      extent (coordinates.map ExtendedRat.finite) = (.finite low, .finite high) ∧
        Span coordinates low high := by
  cases coordinates with
  | nil => exact ⟨0, 1, rfl, .nothing⟩
  | cons first rest =>
      have least := isLeast_foldl_min first rest
      have greatest := isGreatest_foldl_max first rest
      rw [List.map_cons, extent, foldl_lesser_finite, foldl_greater_finite]
      generalize rest.foldl min first = low at least ⊢
      generalize rest.foldl max first = high at greatest ⊢
      by_cases same : low = high
      · subst same
        have allSame : ∀ coordinate ∈ first :: rest, coordinate = low := fun coordinate member =>
          le_antisymm (greatest.2 member) (least.2 member)
        refine ⟨low - 1 / 2, low + 1 / 2, ?_, .single (List.cons_ne_nil _ _) allSame⟩
        have half :
            (((1 : Nat) : ExtendedRat) / ((2 : Nat) : ExtendedRat)) = .finite (1 / 2) :=
          ExtendedRat.finite_div_finite two_ne_zero 1
        simp only [half]
        rw [if_pos (ExtendedRat.same_finite_iff.mpr rfl)]
        simp
      · refine ⟨low, high, ?_, .between least greatest same⟩
        exact if_neg (mt ExtendedRat.same_finite_iff.mp same)

end Graph

namespace Axis

section Uniform

variable {bins : Nat} {low high : Rat}

/-- The edges of equally wide bins, in rational numbers. -/
def exactEdges (bins : Nat) (low high : Rat) : List Rat :=
  (List.range (bins + 1)).map fun (index : Nat) => low + (index : Rat) * ((high - low) / bins)

theorem width_finite (someBins : bins ≠ 0) :
    (ExtendedRat.finite high - .finite low) / (bins : ExtendedRat) =
      .finite ((high - low) / bins) := by
  rw [ExtendedRat.finite_sub_finite, ExtendedRat.natCast_eq_finite,
    ExtendedRat.finite_div_finite (Nat.cast_ne_zero.mpr someBins)]

/-- As nothing is rounded, the last bin ends at the upper end of the axis. -/
theorem lastEdge_eq (someBins : bins ≠ 0) :
    low + bins * ((high - low) / bins) = high := by
  rw [mul_div_cancel₀ _ (Nat.cast_ne_zero.mpr someBins)]
  ring

theorem uniformEdges_finite (someBins : bins ≠ 0) :
    uniformEdges bins (.finite low) (.finite high) =
      (exactEdges bins low high).map ExtendedRat.finite := by
  rw [uniformEdges, width_finite someBins, exactEdges, List.range_succ, List.map_append,
    List.map_append, List.map_map, List.map_singleton, List.map_singleton, lastEdge_eq someBins]
  rfl

theorem pairwise_exactEdges
    (someBins : bins ≠ 0)
    (rising : low < high) :
    (exactEdges bins low high).Pairwise (· < ·) := by
  have binsPositive : (0 : Rat) < bins := Nat.cast_pos.mpr (Nat.pos_of_ne_zero someBins)
  have widthPositive : 0 < (high - low) / bins := div_pos (sub_pos.mpr rising) binsPositive
  rw [exactEdges, List.pairwise_map]
  apply List.pairwise_lt_range.imp
  intro index later before
  have indicesRise : (index : Rat) < later := Nat.cast_lt.mpr before
  exact (add_lt_add_iff_left low).mpr (mul_lt_mul_of_pos_right indicesRise widthPositive)

/-- Without rounding every interval of some width can be cut into bins. -/
theorem exists_uniform
    (someBins : bins ≠ 0)
    (rising : low < high) :
    ∃ axis : Axis ExtendedRat,
      uniform bins (.finite low) (.finite high) = .ok axis ∧
        axis.bins = bins ∧
        axis.low = .finite low ∧
        axis.high = .finite high ∧
        axis.style = {} := by
  have binsPositive : (0 : Rat) < bins := Nat.cast_pos.mpr (Nat.pos_of_ne_zero someBins)
  have widthPositive : 0 < (high - low) / bins := div_pos (sub_pos.mpr rising) binsPositive
  have enough : 2 ≤ ((exactEdges bins low high).map ExtendedRat.finite).length := by
    simp only [exactEdges, List.length_map, List.length_range]
    omega
  have finite :
      ((exactEdges bins low high).map ExtendedRat.finite).all Scalar.isFinite = true := by
    simp
  have increasing : Increasing ((exactEdges bins low high).map ExtendedRat.finite) := by
    apply increasing_of_pairwise_lt
    rw [List.pairwise_map]
    exact (pairwise_exactEdges someBins rising).imp ExtendedRat.finite_lt_finite.mpr
  refine
    ⟨{ edges := ⟨_, enough, finite, increasing⟩ }, ?created, ?bins, ?low, ?high, rfl⟩
  case created =>
    simp only [uniform, width_finite someBins, uniformEdges_finite someBins, Edges.ofList?,
      dif_pos enough, dif_pos finite, dif_pos increasing]
    rw [if_neg someBins, if_neg (by simpa using rising), if_neg]
    simpa using widthPositive
  case bins => simp [Axis.bins, Edges.binCount, exactEdges]
  case low => simp [Axis.low, Edges.first, exactEdges]
  case high => simp [Axis.high, Edges.last, exactEdges, lastEdge_eq someBins]

end Uniform

/-- The style of an axis that shows times. -/
def timeStyle : AxisStyle where
  divisions := 510
  optimizeDivisions := false
  timeDisplay := true
  timeFormat := "%d/%m"

/-- An axis for some coordinates, showing times or not. -/
structure Spans
    (axis : Axis ExtendedRat)
    (name : String)
    (coordinates : List Rat)
    (timed : Bool) : Prop where
  name_eq : axis.name = name
  bins_eq : axis.bins = 100
  limits :
    ∃ low high,
      Span coordinates low high ∧ axis.low = .finite low ∧ axis.high = .finite high
  covers :
    ∀ coordinate ∈ coordinates,
      axis.low ≤ .finite coordinate ∧ .finite coordinate ≤ axis.high
  style_eq : axis.style = if timed then timeStyle else {}

end Axis

/-- The point in numbers that also have infinities. -/
def Point.extended (point : Point Rat) : Point ExtendedRat where
  x := .finite point.x
  y := .finite point.y

/-- What is known of a graph: its name and its points, and which axes show times. -/
structure AddedGraph where
  name : String
  points : List (Point Rat)
  timedX : Bool := false
  timedY : Bool := false

namespace Graph

/-- The graph has the name, the points in their order, and axes that span them. -/
structure Shows (graph : Graph ExtendedRat) (added : AddedGraph) : Prop where
  name_eq : graph.name = added.name
  points_eq : graph.points = added.points.map Point.extended
  xAxis_spans : graph.xAxis.Spans "x" (added.points.map Point.x) added.timedX
  yAxis_spans : graph.yAxis.Spans "y" (added.points.map Point.y) added.timedY

/-- There is an axis for every list of rational coordinates. -/
theorem exists_spanningAxis (name : String) (coordinates : List Rat) :
    ∃ axis,
      spanningAxis name (coordinates.map ExtendedRat.finite) = .ok axis ∧
        axis.Spans name coordinates false := by
  obtain ⟨low, high, extentFound, span⟩ := exists_span_extent coordinates
  have someBins : axisBins ≠ 0 := by decide
  obtain ⟨axis, created, bins, lowFound, highFound, style⟩ :=
    Axis.exists_uniform someBins span.low_lt_high
  refine ⟨axis.withName name, ?_, ?_⟩
  · rw [spanningAxis, extentFound]
    simp only [created]
    rfl
  · exact
      { name_eq := rfl
        bins_eq := bins
        limits := ⟨low, high, span, lowFound, highFound⟩
        covers := by
          intro coordinate member
          obtain ⟨above, below⟩ := span.covers member
          constructor
          · exact lowFound ▸ ExtendedRat.finite_le_finite.mpr above
          · exact highFound ▸ ExtendedRat.finite_le_finite.mpr below
        style_eq := style }

/-- Every list of rational points has a graph. -/
theorem exists_create (name : String) (points : List (Point Rat)) :
    ∃ graph,
      create name (points.map Point.extended) = .ok graph ∧
        graph.Shows { name := name, points := points } := by
  obtain ⟨xAxis, xCreated, xSpans⟩ := exists_spanningAxis "x" (points.map Point.x)
  obtain ⟨yAxis, yCreated, ySpans⟩ := exists_spanningAxis "y" (points.map Point.y)
  have allFinite : (points.map Point.extended).all isFinitePoint = true := by
    simp [isFinitePoint, Point.extended]
  have xCoordinates :
      (points.map Point.extended).map Point.x = (points.map Point.x).map ExtendedRat.finite := by
    rw [List.map_map, List.map_map]
    rfl
  have yCoordinates :
      (points.map Point.extended).map Point.y = (points.map Point.y).map ExtendedRat.finite := by
    rw [List.map_map, List.map_map]
    rfl
  refine
    ⟨{ name := name, points := points.map Point.extended, xAxis := xAxis, yAxis := yAxis }, ?_,
      rfl, rfl, xSpans, ySpans⟩
  rw [create, if_pos allFinite, xCoordinates, yCoordinates, xCreated, yCreated]

/-- Whatever the numbers are, points with a coordinate that is not finite have no graph. -/
theorem create_of_not_finite
    {K : Type}
    [Scalar K]
    {points : List (Point K)}
    {point : Point K}
    (member : point ∈ points)
    (notFinite : isFinitePoint point = false)
    (name : String) :
    create name points = .error (.notFinite name) := by
  apply if_neg
  intro allFinite
  rw [List.all_eq_true.mp allFinite point member] at notFinite
  cases notFinite

end Graph

end PlotBoard
