import PlotBoard.Proofs.Histogram.Integral
import PlotBoard.Proofs.Render.Bars

namespace PlotBoard

/-!
# Densities

A density map shows a value for every pair of bins of two axes: the contents of a
histogram with two axes, or the sums over the third axis of one with three. Columns
and rows are sampled bins in rising order, the rows from the bottom up. In exact
arithmetic a character stands for the rounded share that the value has in the
greatest active value.
-/

/-- Two axes and a value for every pair of their bins. -/
structure Densities (K C : Type) [Scalar K] where
  xAxis : Axis K
  yAxis : Axis K
  value : Nat → Nat → C

/-- The values of the pairs of active bins. -/
def Densities.activeValues {K C : Type} [Scalar K] (densities : Densities K C) : Set C :=
  {value |
    ∃ x y,
      densities.xAxis.isActive x = true ∧
        densities.yAxis.isActive y = true ∧
        densities.value x y = value}

section Flattening

variable {K C : Type} [Scalar K] [Scalar C]

namespace Drawable

/-- What a density map shows of a plot: contents, summed over the active bins of a third axis. -/
def densities? : Drawable K C → Option (Densities K C)
  | .one _ => none
  | .two pair =>
      some {
        xAxis := pair.xAxis
        yAxis := pair.yAxis
        value := fun x y => pair.histogram.content [x, y]
      }
  | .three cube =>
      some {
        xAxis := cube.xAxis
        yAxis := cube.yAxis
        value := fun x y =>
          Scalar.total cube.zAxis.activeBins fun z => cube.histogram.content [x, y, z]
      }

/-- The histogram that is drawn for a plot: its own, or the sum over its third axis. -/
inductive FlattensTo : Drawable K C → Ranked 2 K C → Prop
  | two (pair : Ranked 2 K C) : FlattensTo (.two pair) pair
  | three
      {cube : Ranked 3 K C}
      {sum : Ranked 2 K C}
      (summed : cube.projectXY = .ok sum) :
      FlattensTo (.three cube) sum

end Drawable

namespace Ranked

omit [Scalar C] in
theorem keeps_first_two (cube : Ranked 3 K C) :
    Histogram.Keeps cube.histogram.dimensions [0, 1] := by
  rw [cube.dimensions_eq]
  exact ⟨by decide, by decide⟩

/-- The sum over the third axis always exists. -/
theorem exists_projectXY (cube : Ranked 3 K C) :
    ∃ sum,
      cube.projectXY = .ok sum ∧
        Histogram.IsProjection cube.histogram [0, 1] sum.histogram := by
  have keeps := cube.keeps_first_two
  obtain ⟨result, found, isProjection⟩ :=
    Histogram.projection_of_keeps (by decide) keeps.length_le keeps
  have rank : result.dimensions = 2 := isProjection.dimensions_eq
  refine ⟨⟨result, rank⟩, ?_, isProjection⟩
  rw [projectXY, found, Except.bind, ofHistogram, dif_pos rank]

theorem isProjection_of_projectXY
    {cube : Ranked 3 K C}
    {sum : Ranked 2 K C}
    (summed : cube.projectXY = .ok sum) :
    Histogram.IsProjection cube.histogram [0, 1] sum.histogram := by
  obtain ⟨other, otherSummed, isProjection⟩ := cube.exists_projectXY
  obtain rfl := Except.ok.inj (otherSummed.symm.trans summed)
  exact isProjection

omit [Scalar C] in
/-- Above an active cell of two bins lie the active bins of the third axis. -/
theorem cellsAbove_pair
    {cube : Ranked 3 K C}
    {x y : Nat}
    (xActive : cube.xAxis.isActive x = true)
    (yActive : cube.yAxis.isActive y = true) :
    cube.histogram.cellsAbove [0, 1] [x, y] =
      cube.zAxis.activeBins.map fun z => [x, y, z] := by
  have columnOrdered :
      (cube.zAxis.activeBins.map fun z => [x, y, z]).Pairwise Grid.Precedes := by
    rw [List.pairwise_map]
    refine cube.zAxis.pairwise_activeBins.imp fun below => ?_
    simp [Grid.Precedes, below]
  apply Grid.eq_of_pairwise_precedes (cube.histogram.pairwise_cellsAbove _ _) columnOrdered
  intro cell
  rw [Histogram.mem_cellsAbove_iff cube.keeps_first_two, List.mem_map]
  constructor
  · rintro ⟨active, kept⟩
    have three : cell.length = 3 := active.length_eq.symm.trans cube.dimensions_eq
    obtain ⟨first, second, third, rfl⟩ := List.length_eq_three.mp three
    simp only [List.map_cons, List.map_nil, List.getElem?_cons_zero, List.getElem?_cons_succ,
      List.cons.injEq, Option.some.injEq, and_true] at kept
    obtain ⟨rfl, rfl⟩ := kept
    exact ⟨third, Axis.mem_activeBins.mpr (isActiveCell_triple_iff.mp active).2.2, rfl⟩
  · rintro ⟨z, zMember, rfl⟩
    exact
      ⟨isActiveCell_triple_iff.mpr ⟨xActive, yActive, Axis.mem_activeBins.mp zMember⟩, rfl⟩

end Ranked

/-- The histogram that is drawn has the axes and, where they are active, the values. -/
structure Densities.HeldBy (densities : Densities K C) (pair : Ranked 2 K C) : Prop where
  xAxis_eq : pair.xAxis = densities.xAxis
  yAxis_eq : pair.yAxis = densities.yAxis
  content_eq :
    ∀ x y,
      pair.xAxis.isActive x = true →
      pair.yAxis.isActive y = true →
      pair.histogram.content [x, y] = densities.value x y

/-- The sum over the third axis holds the sums of the active contents. -/
theorem Ranked.heldBy_of_projectXY
    {cube : Ranked 3 K C}
    {sum : Ranked 2 K C}
    {densities : Densities K C}
    (shown : (Drawable.three cube).densities? = some densities)
    (summed : cube.projectXY = .ok sum) :
    densities.HeldBy sum := by
  obtain rfl := Option.some.inj shown
  have isProjection := isProjection_of_projectXY summed
  have axesKept := isProjection.axes_eq
  rw [sum.axes_eq_two, cube.axes_eq_three] at axesKept
  simp only [List.map_cons, List.map_nil, List.getElem?_cons_zero, List.getElem?_cons_succ,
    List.cons.injEq, Option.some.injEq, and_true] at axesKept
  obtain ⟨sameXAxis, sameYAxis⟩ := axesKept
  refine ⟨sameXAxis, sameYAxis, ?_⟩
  intro x y xActive yActive
  have isCell : sum.histogram.IsCell [x, y] :=
    (isActiveCell_pair_iff.mpr ⟨xActive, yActive⟩).isCell
  rw [sameXAxis] at xActive
  rw [sameYAxis] at yActive
  rw [isProjection.content_eq_sumOver cube.keeps_first_two isCell,
    cellsAbove_pair xActive yActive]
  exact Scalar.total_map _ _ _

theorem Drawable.exists_flattensTo
    {plot : Drawable K C}
    {densities : Densities K C}
    (shown : plot.densities? = some densities) :
    ∃ pair, plot.FlattensTo pair := by
  cases plot with
  | one single => cases shown
  | two pair => exact ⟨pair, .two pair⟩
  | three cube =>
      obtain ⟨sum, summed, -⟩ := cube.exists_projectXY
      exact ⟨sum, .three summed⟩

theorem Drawable.FlattensTo.heldBy
    {plot : Drawable K C}
    {pair : Ranked 2 K C}
    {densities : Densities K C}
    (flattens : plot.FlattensTo pair)
    (shown : plot.densities? = some densities) :
    densities.HeldBy pair := by
  cases flattens with
  | two _ =>
      obtain rfl := Option.some.inj shown
      exact ⟨rfl, rfl, fun _ _ _ _ => rfl⟩
  | three summed => exact Ranked.heldBy_of_projectXY shown summed

end Flattening

namespace Terminal

/-- A density on the ramp stands for its character; none is cut off. -/
theorem some_glyph_of_le {density : Nat} (onRamp : density ≤ 9) :
    some (glyph density) = ramp[density]? := by
  simp only [glyph, Nat.min_eq_left onRamp]
  exact (List.getElem?_eq_getElem _).symm

theorem glyph_mem_ramp (density : Nat) : glyph density ∈ ramp :=
  List.getElem_mem _

/--
The lines show values as characters: a column for each sampled bin of the first axis
and, from the bottom up, a line for each sampled bin of the second one.
-/
structure Shows
    {K C : Type}
    [Scalar K]
    (densities : Densities K C)
    (width height : Nat)
    (symbol? : C → Option Char)
    (lines : List String) :
    Prop where
  isBlock :
    IsBlock ramp (min densities.yAxis.activeCount height) (min densities.xAxis.activeCount width)
      lines
  rows_rise :
    ∀ above < min densities.yAxis.activeCount height,
      ∀ below < above,
        sampledBin densities.yAxis height below < sampledBin densities.yAxis height above
  rows_spaced :
    ∀ above < min densities.yAxis.activeCount height,
      sampledBin densities.yAxis height above =
        densities.yAxis.range.1 +
          above * densities.yAxis.activeCount / min densities.yAxis.activeCount height
  columns_rise :
    ∀ right < min densities.xAxis.activeCount width,
      ∀ left < right,
        sampledBin densities.xAxis width left < sampledBin densities.xAxis width right
  columns_spaced :
    ∀ column < min densities.xAxis.activeCount width,
      sampledBin densities.xAxis width column =
        densities.xAxis.range.1 +
          column * densities.xAxis.activeCount / min densities.xAxis.activeCount width
  characterAbove?_eq :
    ∀ above < min densities.yAxis.activeCount height,
      ∀ column < min densities.xAxis.activeCount width,
        characterAbove? lines above column =
          symbol?
            (densities.value (sampledBin densities.xAxis width column)
              (sampledBin densities.yAxis height above))

section Lines

variable {K C N : Type} [Scalar K] [Scalar C] [Scalar N] [Narrowing C N] [Reductions N]

/-- The character for a content, given the greatest one. -/
def densitySymbol (maximum : N) (content : C) : Char :=
  glyph (level maximum 9 (Narrowing.narrow content))

/-- The lines of a density map. -/
def densityLines (width height : Nat) (pair : Ranked 2 K C) : List String :=
  (sampledBins pair.yAxis height).reverse.map fun y =>
    String.ofList ((sampledBins pair.xAxis width).map fun x =>
      densitySymbol (pair.histogram.statistics.maximum : N) (pair.histogram.content [x, y]))

/-- The text of a density map, line by line. -/
theorem consistsOf_densityMap
    (width height : Nat)
    (pair : Ranked 2 K C)
    (request : DrawRequest) :
    ConsistsOf (densityMap width height pair request).text
      (headline pair.histogram request :: densityLines width height pair) :=
  Frame.consistsOf_text (header_eq_headline pair.histogram request)

/-- A plot with two or three axes is drawn as one more frame. -/
theorem draw_of_flattensTo
    {plot : Drawable K C}
    {pair : Ranked 2 K C}
    (flattens : plot.FlattensTo pair)
    (request : DrawRequest)
    (terminal : Terminal) :
    Renderer.terminal.draw plot request terminal =
      (.ok (),
        { terminal with
          frames :=
            terminal.frames ++
              [(densityMap terminal.width.toNat terminal.height.toNat pair request).text] }) := by
  cases flattens with
  | two _ => rfl
  | three summed => simp only [Renderer.terminal, draw, frame, summed]

variable {width height : Nat} {pair : Ranked 2 K C}

theorem isBlock_densityLines :
    IsBlock ramp (min pair.yAxis.activeCount height) (min pair.xAxis.activeCount width)
      (densityLines width height pair) where
  length_eq := by
    rw [densityLines, List.length_map, List.length_reverse, length_sampledBins]
  line_length_eq := by
    intro line member
    obtain ⟨y, -, rfl⟩ := List.mem_map.mp member
    rw [String.length_ofList, List.length_map, length_sampledBins]
  mem_symbols := by
    intro line member symbol inLine
    obtain ⟨y, -, rfl⟩ := List.mem_map.mp member
    rw [String.toList_ofList] at inLine
    obtain ⟨x, -, rfl⟩ := List.mem_map.mp inLine
    exact glyph_mem_ramp _

theorem characterAbove?_densityLines
    {above column : Nat}
    (aboveWithin : above < min pair.yAxis.activeCount height)
    (columnWithin : column < min pair.xAxis.activeCount width) :
    characterAbove? (densityLines width height pair) above column =
      some
        (densitySymbol pair.histogram.statistics.maximum
          (pair.histogram.content
            [sampledBin pair.xAxis width column, sampledBin pair.yAxis height above])) := by
  rw [characterAbove?, densityLines, ← List.map_reverse, List.reverse_reverse,
    List.getElem?_map, getElem?_sampledBins aboveWithin, Option.map_some, Option.bind_some,
    String.toList_ofList, List.getElem?_map, getElem?_sampledBins columnWithin, Option.map_some]

/-- The lines show what the histogram holds, one character for each pair of sampled bins. -/
theorem shows_densityLines
    {densities : Densities K C}
    (held : densities.HeldBy pair)
    (width height : Nat)
    {symbol? : C → Option Char}
    (sameSymbol :
      ∀ value ∈ densities.activeValues,
        some (densitySymbol (pair.histogram.statistics.maximum : N) value) = symbol? value) :
    Shows densities width height symbol? (densityLines width height pair) where
  isBlock := by
    rw [← held.xAxis_eq, ← held.yAxis_eq]
    exact isBlock_densityLines
  rows_rise _ within _ earlier := sampledBin_lt_sampledBin earlier within
  rows_spaced _ within := sampledBin_eq within
  columns_rise _ within _ earlier := sampledBin_lt_sampledBin earlier within
  columns_spaced _ within := sampledBin_eq within
  characterAbove?_eq := by
    intro above aboveWithin column columnWithin
    have xActive := isActive_sampledBin columnWithin
    have yActive := isActive_sampledBin aboveWithin
    rw [← sameSymbol _ ⟨_, _, xActive, yActive, rfl⟩]
    rw [← held.xAxis_eq] at columnWithin xActive ⊢
    rw [← held.yAxis_eq] at aboveWithin yActive ⊢
    rw [characterAbove?_densityLines aboveWithin columnWithin,
      held.content_eq _ _ xActive yActive]

end Lines

section ExactContents

variable {K : Type} [Scalar K]

/-- The active values are the contents of the active cells of the histogram that is drawn. -/
theorem activeValues_eq_of_heldBy
    {densities : Densities K Rat}
    {pair : Ranked 2 K Rat}
    (held : densities.HeldBy pair) :
    densities.activeValues = pair.histogram.activeValues := by
  ext content
  constructor
  · rintro ⟨x, y, xActive, yActive, isContent⟩
    rw [← held.xAxis_eq] at xActive
    rw [← held.yAxis_eq] at yActive
    rw [← held.content_eq x y xActive yActive] at isContent
    exact ⟨[x, y], Ranked.isActiveCell_pair_iff.mpr ⟨xActive, yActive⟩, isContent⟩
  · rintro ⟨cell, active, isContent⟩
    have two : cell.length = 2 := active.length_eq.symm.trans pair.dimensions_eq
    obtain ⟨x, y, rfl⟩ := List.length_eq_two.mp two
    obtain ⟨xActive, yActive⟩ := Ranked.isActiveCell_pair_iff.mp active
    rw [held.content_eq x y xActive yActive] at isContent
    rw [held.xAxis_eq] at xActive
    rw [held.yAxis_eq] at yActive
    exact ⟨x, y, xActive, yActive, isContent⟩

/-- The greatest active value is the maximum of the histogram that is drawn. -/
theorem maximum_eq_of_heldBy
    [Reductions Rat]
    [Reductions.Exact]
    {densities : Densities K Rat}
    {pair : Ranked 2 K Rat}
    (held : densities.HeldBy pair)
    {largest : Rat}
    (isLargest : IsGreatest densities.activeValues largest) :
    pair.histogram.statistics.maximum = largest := by
  rw [activeValues_eq_of_heldBy held] at isLargest
  exact Histogram.maximum_eq_of_isGreatest isLargest

/-- In exact arithmetic the character for a value stands at its rounded share on the ramp. -/
theorem some_densitySymbol
    {largest value : Rat}
    (within : value ≤ largest) :
    some (densitySymbol largest value) = ramp[roundedShare largest 9 value]? := by
  rw [densitySymbol, level_eq_roundedShare]
  exact some_glyph_of_le (roundedShare_le within)

end ExactContents

/--
A plot with two or three axes is always drawn, whatever its active bins and the
extents of the terminal: one more frame, whose headline is followed by a line for each
active bin of the second axis, the highest one at the top, and in each line a
character of the ramp for each active bin of the first axis, but no more of them than
there is room for. Each character shows the content of its pair of bins, or the sum of
the active contents along a third axis.

In exact arithmetic, and with reductions that find the greatest value, it is the
character at the rounded share of that value in the greatest active value. The share
stays within the ramp, rises with the value, is blank for a value or a greatest value
that is not positive, and full for a greatest value that is positive.
-/
theorem draw_densities
    {K C N : Type}
    [Scalar K]
    [Scalar C]
    [Scalar N]
    [Narrowing C N]
    [Reductions N] :
    (∀ (plot : Drawable K C) (densities : Densities K C),
      plot.densities? = some densities →
        ∃ pair,
          plot.FlattensTo pair ∧
            ∀ (request : DrawRequest) (terminal : Terminal),
              let lines := densityLines terminal.width.toNat terminal.height.toNat pair
              (∃ text,
                Renderer.terminal.draw plot request terminal =
                    (.ok (), { terminal with frames := terminal.frames ++ [text] }) ∧
                  ConsistsOf text (headline pair.histogram request :: lines)) ∧
                let maximum : N := pair.histogram.statistics.maximum
                Shows densities terminal.width.toNat terminal.height.toNat
                  (fun value => some (glyph (level maximum 9 (Narrowing.narrow value)))) lines) ∧
      ∀ [Reductions Rat] [Reductions.Exact]
        (plot : Drawable K Rat) (densities : Densities K Rat) (pair : Ranked 2 K Rat),
        plot.densities? = some densities →
          plot.FlattensTo pair →
            ∀ largest,
              IsGreatest densities.activeValues largest →
                (∀ width height,
                  Shows densities width height
                    (fun value => ramp[roundedShare largest 9 value]?)
                    (densityLines width height pair)) ∧
                  (∀ value ∈ densities.activeValues, roundedShare largest 9 value ≤ 9) ∧
                  Monotone (roundedShare largest 9) ∧
                  (∀ value,
                    largest ≤ 0 ∨ value ≤ 0 →
                      ramp[roundedShare largest 9 value]? = some ' ') ∧
                  (0 < largest → ramp[roundedShare largest 9 largest]? = some '@') := by
  constructor
  · intro plot densities shown
    obtain ⟨pair, flattens⟩ := Drawable.exists_flattensTo shown
    refine ⟨pair, flattens, ?_⟩
    intro request terminal
    refine
      ⟨⟨_, draw_of_flattensTo flattens request terminal, consistsOf_densityMap _ _ _ _⟩, ?_⟩
    exact shows_densityLines (flattens.heldBy shown) _ _ fun _ _ => rfl
  · intro _ _ plot densities pair shown flattens largest isLargest
    have held := flattens.heldBy shown
    refine ⟨?lines, ?onRamp, monotone_roundedShare, ?blank, ?full⟩
    case lines =>
      intro width height
      apply shows_densityLines held
      intro value isValue
      rw [maximum_eq_of_heldBy held isLargest]
      exact some_densitySymbol (isLargest.2 isValue)
    case onRamp =>
      intro value isValue
      exact roundedShare_le (isLargest.2 isValue)
    case blank =>
      intro value notPositive
      have noShare : roundedShare largest 9 value = 0 := by
        rcases notPositive with largestNotPositive | valueNotPositive
        · exact if_pos largestNotPositive
        · exact roundedShare_of_nonpos valueNotPositive
      rw [noShare]
      rfl
    case full =>
      intro positive
      rw [roundedShare_self positive]
      rfl

/-- Three axes; the contents of the first bin along the third one are excluded. -/
def layeredCube : Ranked 3 Rat Rat where
  histogram :=
    { name := "layers"
      title := ""
      axes :=
        [ { edges := ⟨[0, 2, 4, 6], by decide, by decide, by decide⟩ },
          { edges := ⟨[0, 5, 10], by decide, by decide, by decide⟩ },
          { edges := ⟨[0, 1, 4, 9], by decide, by decide, by decide⟩
            selection := .span 2 3
            selection_fits := ⟨by decide, by decide, by decide⟩ } ]
      contents := #[90, 90, 90, 90, 90, 90, 0, 1, 2, 3, 4, -5, 1, 1, 2, 3, 4, 0]
      entries := 18
      axes_ne_nil := by decide
      size_contents := rfl
      size_fits := by decide }
  dimensions_eq := rfl

/-- The sums over the two active layers: 1, 2 and 4 below 6, 8 and -5. -/
def layeredSums : Densities Rat Rat where
  xAxis := layeredCube.xAxis
  yAxis := layeredCube.yAxis
  value x y :=
    Scalar.total layeredCube.zAxis.activeBins fun z => layeredCube.histogram.content [x, y, z]

theorem isGreatest_layeredSums :
    IsGreatest layeredSums.activeValues 8 := by
  constructor
  · exact ⟨2, 2, by decide, by decide, by decide +kernel⟩
  · rintro value ⟨x, y, xActive, yActive, rfl⟩
    have xListed : x ∈ [1, 2, 3] := Axis.mem_activeBins.mpr xActive
    have yListed : y ∈ [1, 2] := Axis.mem_activeBins.mpr yActive
    have below : ∀ x ∈ [1, 2, 3], ∀ y ∈ [1, 2], layeredSums.value x y ≤ 8 := by
      decide +kernel
    exact below x xListed y yListed

/-- With room for two of three columns the greatest sum is full and the least is nearly blank. -/
theorem draw_densities_layeredCube :
    IsGreatest layeredSums.activeValues 8 ∧
      ∃ pair,
        (Drawable.three layeredCube).FlattensTo pair ∧
          characterAbove? (densityLines 2 2 pair) 1 1 = some '@' ∧
          characterAbove? (densityLines 2 2 pair) 1 0 = some '#' ∧
          characterAbove? (densityLines 2 2 pair) 0 0 = some '.' := by
  obtain ⟨pair, flattens, -⟩ :=
    (draw_densities (K := Rat) (C := Rat)).1 (.three layeredCube) layeredSums rfl
  obtain ⟨lines, -, -, -, full⟩ :=
    (draw_densities (K := Rat) (C := Rat)).2 (.three layeredCube) layeredSums pair rfl flattens 8
      isGreatest_layeredSums
  have characters := (lines 2 2).characterAbove?_eq
  refine ⟨isGreatest_layeredSums, pair, flattens, ?greatest, ?share, ?least⟩
  case greatest =>
    have sum : layeredSums.value 2 2 = 8 := by decide +kernel
    have shown : ramp[roundedShare 8 9 (layeredSums.value 2 2)]? = some '@' := by
      rw [sum]
      exact full (by decide)
    exact (characters 1 (by decide) 1 (by decide)).trans shown
  case share =>
    have sum : layeredSums.value 1 2 = 6 := by decide +kernel
    have share : roundedShare 8 9 (layeredSums.value 1 2) = 7 := by
      norm_num [sum, roundedShare, Nat.floor_eq_iff]
    exact (characters 1 (by decide) 0 (by decide)).trans (congrArg (ramp[·]?) share)
  case least =>
    have sum : layeredSums.value 1 1 = 1 := by decide +kernel
    have share : roundedShare 8 9 (layeredSums.value 1 1) = 1 := by
      norm_num [sum, roundedShare, Nat.floor_eq_iff]
    exact (characters 0 (by decide) 0 (by decide)).trans (congrArg (ramp[·]?) share)

end Terminal

end PlotBoard
