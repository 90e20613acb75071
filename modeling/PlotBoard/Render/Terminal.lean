import PlotBoard.Histogram.Statistics
import PlotBoard.Render.Renderer

namespace PlotBoard

/-!
# Terminal frames

Plots in plain characters. A histogram with one axis becomes a bar chart, one
with two axes a density map with the second axis running upward, and one with
three axes is summed over the third. An axis with more active bins than there is
room is sampled: every column or row shows one bin of an equal part of the axis.
-/

/-- A header, which ends its own line, and the lines below it. -/
structure Frame where
  header : String
  lines : List String

/-- The frame with every line ended. -/
def Frame.text (frame : Frame) : String :=
  frame.header ++ String.join (frame.lines.map (· ++ "\n"))

/-- The extents of a terminal and the frames drawn on it, oldest first. -/
structure Terminal where
  width : UInt32 := 60
  height : UInt32 := 16
  frames : List String := []

namespace Terminal

/-- The characters of rising density. -/
def ramp : List Char :=
  [' ', '.', ':', '-', '=', '+', '*', '#', '%', '@']

/-- The character for a density; the last one for every density beyond the ramp. -/
def glyph (density : Nat) : Char :=
  have inside : min density 9 < ramp.length :=
    Nat.lt_succ_of_le (Nat.min_le_right density 9)
  ramp[min density 9]

/-- The bin shown in one of `count` places for the bins from `first` to `last`. -/
def sample (first last count place : Nat) : Nat :=
  first + place * (last - first + 1) / count

/-- The text above a plot. -/
def header {K C : Type} [Scalar K] (histogram : Histogram K C) (request : DrawRequest) : String :=
  let title := if histogram.title = "" then "" else " \"" ++ histogram.title ++ "\""
  let operation := if request.operation = "" then "" else " [" ++ request.operation ++ "]"
  histogram.name ++ title ++ operation ++ "\n"

section Levels

variable {N : Type} [Scalar N]

/-- The share of a value in the maximum, in steps; none of a maximum that is not positive. -/
def level (maximum : N) (steps : Nat) (value : N) : Nat :=
  if ((0 : Nat) : N) < maximum then
    Scalar.nearest (Scalar.greater value ((0 : Nat) : N) / maximum * (steps : N))
  else
    0

end Levels

variable {K C N : Type} [Scalar K] [Scalar C] [Scalar N] [Narrowing C N] [Reductions N]

/-- The bins of an axis that are shown in at most `room` places. -/
def sampledBins (axis : Axis K) (room : Nat) : List Nat :=
  let count := min axis.activeCount room
  (List.range count).map fun place =>
    sample axis.range.1 axis.range.2 count place

/-- The coordinates of the active bins, or of the whole axis, and the title of the axis. -/
def footer (axis : Axis K) : String :=
  let low := (axis.edges.lowEdge? axis.range.1).getD axis.low
  let high := (axis.edges.upEdge? axis.range.2).getD axis.high
  Scalar.text low ++ " .. " ++ Scalar.text high ++ " " ++ axis.title

/-- The line of a bar chart at a height above the base. -/
def barLine (heights : List Nat) (above : Nat) : String :=
  String.ofList (heights.map fun height => if above ≤ height then '#' else ' ')

/-- A bar for every sampled bin, a base line and the footer. -/
def barChart
    (width height : Nat)
    (plot : Ranked 1 K C)
    (request : DrawRequest) :
    Frame :=
  let maximum : N := plot.histogram.statistics.maximum
  let heights := (sampledBins plot.xAxis width).map fun bin =>
    level maximum height (Narrowing.narrow (plot.histogram.content [bin]))
  let bars := (List.range height).reverse.map fun below => barLine heights (below + 1)
  { header := header plot.histogram request
    lines := bars ++
      [String.ofList (List.replicate heights.length '-'), footer plot.xAxis] }

/-- A character for every sampled cell, the highest bin of the second axis first. -/
def densityMap
    (width height : Nat)
    (plot : Ranked 2 K C)
    (request : DrawRequest) :
    Frame :=
  let maximum : N := plot.histogram.statistics.maximum
  let columns := sampledBins plot.xAxis width
  let rows := (sampledBins plot.yAxis height).reverse
  { header := header plot.histogram request
    lines := rows.map fun y =>
      String.ofList (columns.map fun x =>
        glyph (level maximum 9 (Narrowing.narrow (plot.histogram.content [x, y])))) }

/-- The frame of a plot. -/
def frame
    (width height : Nat)
    (plot : Drawable K C)
    (request : DrawRequest) :
    Except Error Frame :=
  match plot with
  | .one ranked => .ok (barChart width height ranked request)
  | .two ranked => .ok (densityMap width height ranked request)
  | .three ranked =>
      match ranked.projectXY with
      | .ok sum => .ok (densityMap width height sum request)
      | .error error => .error (.rendering error.message)

/-- The terminal with the frame of a plot added, unless the plot has none. -/
def draw
    (plot : Drawable K C)
    (request : DrawRequest)
    (terminal : Terminal) :
    Except Error Unit × Terminal :=
  match frame terminal.width.toNat terminal.height.toNat plot request with
  | .ok drawn => (.ok (), { terminal with frames := terminal.frames ++ [drawn.text] })
  | .error error => (.error error, terminal)

/-- The terminal with other extents, of which none is zero. -/
def resize (terminal : Terminal) (width height : UInt32) : Terminal :=
  { terminal with width := max width 1, height := max height 1 }

/-- All frames, with an empty line between them. -/
def output (terminal : Terminal) : String :=
  "\n".intercalate terminal.frames

end Terminal

/-- The renderer that adds frames to a terminal. -/
def Renderer.terminal
    {K C N : Type}
    [Scalar K]
    [Scalar C]
    [Scalar N]
    [Narrowing C N]
    [Reductions N] :
    Renderer K C Terminal where
  draw := Terminal.draw

end PlotBoard
