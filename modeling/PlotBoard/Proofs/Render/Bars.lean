import PlotBoard.Proofs.Histogram.Statistics
import PlotBoard.Proofs.Render.Frames
import PlotBoard.Proofs.Render.Shares
import PlotBoard.Proofs.Render.Visibility

namespace PlotBoard.Terminal

/-!
# Bars

A bar chart has one column for each sampled bin and one line for each step of its
height. A column is filled from the base line upward, to the share that the bin's
content has in the greatest active content, which need not be the content of a
sampled bin.
-/

/-- A block of lines that are equally long and hold no characters but the given ones. -/
structure IsBlock
    (symbols : List Char)
    (rows columns : Nat)
    (lines : List String) :
    Prop where
  length_eq : lines.length = rows
  line_length_eq : ∀ line ∈ lines, line.length = columns
  mem_symbols : ∀ line ∈ lines, ∀ symbol ∈ line.toList, symbol ∈ symbols

/-- The character in a column of the line at some height, the last line being at height zero. -/
def characterAbove? (lines : List String) (above column : Nat) : Option Char :=
  lines.reverse[above]?.bind fun line => line.toList[column]?

/-- The bars of a column are its lowest `height` lines. -/
def StandsTo (lines : List String) (column height : Nat) : Prop :=
  ∀ above < lines.length,
    characterAbove? lines above column = some (if above < height then '#' else ' ')

section Lines

variable {K C N : Type} [Scalar K] [Scalar C] [Scalar N] [Narrowing C N] [Reductions N]

/-- The height of the bar of every sampled bin. -/
def barHeights (width height : Nat) (plot : Ranked 1 K C) : List Nat :=
  (sampledBins plot.xAxis width).map fun bin =>
    level plot.histogram.statistics.maximum height
      (Narrowing.narrow (plot.histogram.content [bin]))

/-- The lines of a bar chart above its base line. -/
def barLines (width height : Nat) (plot : Ranked 1 K C) : List String :=
  (List.range height).reverse.map fun below => barLine (barHeights width height plot) (below + 1)

variable {width height : Nat} {plot : Ranked 1 K C}

theorem length_barHeights :
    (barHeights width height plot).length = min plot.xAxis.activeCount width := by
  rw [barHeights, List.length_map, length_sampledBins]

/-- The text of a bar chart, line by line. -/
theorem consistsOf_barChart (request : DrawRequest) :
    ConsistsOf (barChart width height plot request).text
      (headline plot.histogram request ::
        barLines width height plot ++
          [String.ofList (List.replicate (min plot.xAxis.activeCount width) '-'),
            footer plot.xAxis]) := by
  have count : (barHeights width height plot).length = min plot.xAxis.activeCount width :=
    length_barHeights
  rw [← count]
  exact Frame.consistsOf_text (header_eq_headline plot.histogram request)

theorem length_barLines :
    (barLines width height plot).length = height := by
  rw [barLines, List.length_map, List.length_reverse, List.length_range]

/-- The lines above the base line are a block of bars and blanks. -/
theorem isBlock_barLines :
    IsBlock ['#', ' '] height (min plot.xAxis.activeCount width)
      (barLines width height plot) where
  length_eq := length_barLines
  line_length_eq := by
    intro line member
    obtain ⟨below, -, rfl⟩ := List.mem_map.mp member
    rw [barLine, String.length_ofList, List.length_map, length_barHeights]
  mem_symbols := by
    intro line member symbol inLine
    obtain ⟨below, -, rfl⟩ := List.mem_map.mp member
    rw [barLine, String.toList_ofList] at inLine
    obtain ⟨bar, -, rfl⟩ := List.mem_map.mp inLine
    split
    · exact List.mem_cons_self
    · exact List.mem_cons_of_mem _ (List.mem_singleton_self _)

/-- A column stands to the height of its bar. -/
theorem standsTo_barLines
    {column bar : Nat}
    (isBar : (barHeights width height plot)[column]? = some bar) :
    StandsTo (barLines width height plot) column bar := by
  intro above aboveWithin
  rw [length_barLines] at aboveWithin
  have line :
      (barLines width height plot).reverse[above]? =
        some (barLine (barHeights width height plot) (above + 1)) := by
    rw [barLines, ← List.map_reverse, List.reverse_reverse, List.getElem?_map,
      List.getElem?_range aboveWithin, Option.map_some]
  rw [characterAbove?, line, Option.bind_some, barLine, String.toList_ofList,
    List.getElem?_map, isBar, Option.map_some]
  rfl

/-- A plot with one axis is always drawn, as one more frame. -/
theorem draw_one
    (plot : Ranked 1 K C)
    (request : DrawRequest)
    (terminal : Terminal) :
    Renderer.terminal.draw (.one plot) request terminal =
      (.ok (),
        { terminal with
          frames :=
            terminal.frames ++
              [(barChart terminal.width.toNat terminal.height.toNat plot request).text] }) :=
  rfl

end Lines

section ExactContents

variable {K : Type} [Scalar K] {plot : Ranked 1 K Rat}

/-- The contents of the active bins. -/
def activeBinContents (plot : Ranked 1 K Rat) : Set Rat :=
  {content | ∃ bin, plot.xAxis.isActive bin = true ∧ plot.histogram.content [bin] = content}

/-- The active cells of a histogram with one axis are its active bins. -/
theorem activeBinContents_eq :
    activeBinContents plot = plot.histogram.activeValues := by
  ext content
  constructor
  · rintro ⟨bin, active, isContent⟩
    exact ⟨[bin], Ranked.isActiveCell_singleton_iff.mpr active, isContent⟩
  · rintro ⟨cell, active, isContent⟩
    have single : cell.length = 1 := active.length_eq.symm.trans plot.dimensions_eq
    obtain ⟨bin, rfl⟩ := List.length_eq_one_iff.mp single
    exact ⟨bin, Ranked.isActiveCell_singleton_iff.mp active, isContent⟩

/-- In exact arithmetic every bar is the share of its bin's content. -/
theorem getElem?_barHeights
    [Reductions Rat]
    [Reductions.Exact]
    {largest : Rat}
    (isLargest : IsGreatest (activeBinContents plot) largest)
    (height : Nat)
    {width column : Nat}
    (columnWithin : column < min plot.xAxis.activeCount width) :
    (barHeights width height plot)[column]? =
      some
        (roundedShare largest height
          (plot.histogram.content [sampledBin plot.xAxis width column])) := by
  rw [activeBinContents_eq] at isLargest
  rw [barHeights, List.getElem?_map, getElem?_sampledBins columnWithin, Option.map_some,
    Histogram.maximum_eq_of_isGreatest isLargest, level_eq_roundedShare]
  rfl

end ExactContents

/--
A histogram with one axis is always drawn, whatever its active bins and the extents of
the terminal: one more frame, whose headline is followed by as many lines as the terminal
is high, by a line of dashes and by the coordinates between which the bins lie. There are
as many columns as active bins, but no more than there is room for.

In exact arithmetic, and with reductions that find the greatest content, the bars of a
column are its lowest lines, as many as the rounded share of the sampled bin's content in
the greatest active content. That is at most the height, rises with the content, and is
nothing for a content that is not positive and the whole height for a greatest content
that is positive.
-/
theorem draw_bars
    {K C N : Type}
    [Scalar K]
    [Scalar C]
    [Scalar N]
    [Narrowing C N]
    [Reductions N] :
    (∀ (plot : Ranked 1 K C) (request : DrawRequest) (terminal : Terminal),
      let columns := min plot.xAxis.activeCount terminal.width.toNat
      let bars := barLines terminal.width.toNat terminal.height.toNat plot
      ∃ text low high,
        Renderer.terminal.draw (.one plot) request terminal =
            (.ok (), { terminal with frames := terminal.frames ++ [text] }) ∧
          ConsistsOf text
            (headline plot.histogram request ::
              bars ++
                [String.ofList (List.replicate columns '-'),
                  Scalar.text low ++ " .. " ++ Scalar.text high ++ " " ++ plot.xAxis.title]) ∧
          IsBlock ['#', ' '] terminal.height.toNat columns bars ∧
          LabelledBetween plot.xAxis low high) ∧
      ∀ [Reductions Rat] [Reductions.Exact] (plot : Ranked 1 K Rat) (largest : Rat),
        IsGreatest (activeBinContents plot) largest →
          ∀ width height,
            (∀ column < min plot.xAxis.activeCount width,
              let bin :=
                plot.xAxis.range.1 +
                  column * plot.xAxis.activeCount / min plot.xAxis.activeCount width
              let bar := roundedShare largest height (plot.histogram.content [bin])
              plot.xAxis.isActive bin = true ∧
                StandsTo (barLines width height plot) column bar ∧
                bar ≤ height) ∧
              Monotone (roundedShare largest height) ∧
              (∀ content ≤ 0, roundedShare largest height content = 0) ∧
              (0 < largest → roundedShare largest height largest = height) := by
  constructor
  · intro plot request terminal columns bars
    obtain ⟨low, high, labelled, footerText⟩ := exists_footer_eq plot.xAxis
    refine ⟨_, low, high, draw_one plot request terminal, ?_, isBlock_barLines, labelled⟩
    rw [← footerText]
    exact consistsOf_barChart request
  · intro _ _ plot largest isLargest width height
    refine
      ⟨?_, monotone_roundedShare, fun _ => roundedShare_of_nonpos, roundedShare_self⟩
    intro column columnWithin
    have isBar := getElem?_barHeights isLargest height columnWithin
    have active := isActive_sampledBin columnWithin
    rw [sampledBin_eq columnWithin] at isBar active
    exact
      ⟨active, standsTo_barLines isBar, roundedShare_le (isLargest.2 ⟨_, active, rfl⟩)⟩

/-- Five bins; the greatest content is not shown where there is room for three columns only. -/
def unevenRow : Ranked 1 Rat Rat where
  histogram :=
    { name := "uneven"
      title := ""
      axes := [{ edges := ⟨[0, 1, 2, 3, 4, 5], by decide, by decide, by decide⟩ }]
      contents := #[-1, 3, 8, 6, 2]
      entries := 5
      axes_ne_nil := by decide
      size_contents := rfl
      size_fits := by decide }
  dimensions_eq := rfl

theorem isGreatest_unevenRow :
    IsGreatest (activeBinContents unevenRow) 8 := by
  constructor
  · exact ⟨3, by decide, by decide⟩
  · rintro content ⟨bin, active, rfl⟩
    have listed : bin ∈ [1, 2, 3, 4, 5] := Axis.mem_activeBins.mpr active
    have below : ∀ bin ∈ [1, 2, 3, 4, 5], unevenRow.histogram.content [bin] ≤ 8 := by decide
    exact below bin listed

/-- The shares are nothing, one and a half of four lines, and three of four lines. -/
theorem draw_bars_unevenRow :
    IsGreatest (activeBinContents unevenRow) 8 ∧
      StandsTo (barLines 3 4 unevenRow) 0 0 ∧
      StandsTo (barLines 3 4 unevenRow) 1 2 ∧
      StandsTo (barLines 3 4 unevenRow) 2 3 := by
  obtain ⟨columns, -, noneBelow, -⟩ :=
    (draw_bars (K := Rat) (C := Rat)).2 unevenRow 8 isGreatest_unevenRow 3 4
  refine ⟨isGreatest_unevenRow, ?first, ?second, ?third⟩
  case first =>
    have stands : StandsTo (barLines 3 4 unevenRow) 0 (roundedShare 8 4 (-1)) :=
      (columns 0 (by decide)).2.1
    rwa [noneBelow (-1) (by decide)] at stands
  case second =>
    have stands : StandsTo (barLines 3 4 unevenRow) 1 (roundedShare 8 4 3) :=
      (columns 1 (by decide)).2.1
    have share : roundedShare 8 4 3 = 2 := by
      norm_num [roundedShare, Nat.floor_eq_iff]
    rwa [share] at stands
  case third =>
    have stands : StandsTo (barLines 3 4 unevenRow) 2 (roundedShare 8 4 6) :=
      (columns 2 (by decide)).2.1
    have share : roundedShare 8 4 6 = 3 := by
      norm_num [roundedShare, Nat.floor_eq_iff]
    rwa [share] at stands

end PlotBoard.Terminal
