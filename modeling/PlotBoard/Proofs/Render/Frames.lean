import Mathlib.Order.Bounds.Basic
import PlotBoard.Proofs.Axis.BinSearch
import PlotBoard.Proofs.Axis.Ranges
import PlotBoard.Render.Terminal

namespace PlotBoard

/-!
# Texts of frames

The text of a frame is its headline and its lines, each of them ended by a line break.
The headline names the histogram, and the line below a bar chart says between which
coordinates its bins lie.
-/

/-- The text is made of the lines, each of them ended by a line break. -/
def ConsistsOf (text : String) (lines : List String) : Prop :=
  text.toList = lines.flatMap fun line => line.toList ++ ['\n']

/-- A frame is written line by line, behind a header that brings its own line break. -/
theorem Frame.toList_text (frame : Frame) :
    frame.text.toList =
      frame.header.toList ++ frame.lines.flatMap fun line => line.toList ++ ['\n'] := by
  rw [text, String.toList_append, String.toList_join, List.flatMap_map]
  simp only [String.toList_append]
  rfl

theorem Frame.consistsOf_text
    {frame : Frame}
    {headline : String}
    (headed : frame.header = headline ++ "\n") :
    ConsistsOf frame.text (headline :: frame.lines) := by
  rw [ConsistsOf, toList_text, headed, String.toList_append, List.flatMap_cons]
  rfl

namespace Terminal

/-- A text between two marks, set off by a blank; an empty text is left out with its marks. -/
def enclosed (opening closing text : String) : String :=
  if text = "" then "" else " " ++ opening ++ text ++ closing

variable {K C : Type} [Scalar K]

/-- The name of a histogram, its title in quotation marks and the operation in brackets. -/
def headline (histogram : Histogram K C) (request : DrawRequest) : String :=
  histogram.name ++ enclosed "\"" "\"" histogram.title ++ enclosed "[" "]" request.operation

theorem header_eq_headline (histogram : Histogram K C) (request : DrawRequest) :
    header histogram request = headline histogram request ++ "\n" :=
  rfl

/--
The coordinates that a chart of an axis is labelled with: the edges of the first and the
last active bin, or the ends of the axis when no bin is active.
-/
inductive LabelledBetween (axis : Axis K) : K → K → Prop
  | active
      {first last : Nat}
      {low high : K}
      (isFirst : IsLeast {bin | axis.isActive bin = true} first)
      (isLast : IsGreatest {bin | axis.isActive bin = true} last)
      (lowFound : axis.edges.lowEdge? first = some low)
      (highFound : axis.edges.upEdge? last = some high) :
      LabelledBetween axis low high
  | nothing (noneActive : ∀ bin, axis.isActive bin = false) :
      LabelledBetween axis axis.low axis.high

/-- The footer names the coordinates between which bins are shown, and the title of the axis. -/
theorem exists_footer_eq (axis : Axis K) :
    ∃ low high,
      LabelledBetween axis low high ∧
        footer axis =
          Scalar.text low ++ " .. " ++ Scalar.text high ++ " " ++ axis.title := by
  rcases axis.range_cases with nothing | ⟨fromFirst, rising, toLast⟩
  · have noneActive : ∀ bin, axis.isActive bin = false := by
      intro bin
      rw [← Bool.not_eq_true, Axis.isActive_iff, nothing]
      omega
    refine ⟨axis.low, axis.high, .nothing noneActive, ?_⟩
    have lowEdge : axis.edges.lowEdge? 1 = some axis.low := by
      rw [Edges.lowEdge?, if_pos axis.edges.binCount_pos, ← List.head?_eq_getElem?]
      exact List.head?_eq_some_head axis.edges.values_ne_nil
    rw [footer, nothing]
    simp only [lowEdge, Edges.upEdge?, Option.getD_some, Option.getD_none]
  · obtain ⟨low, _, lowFound, -⟩ := Edges.exists_edges_of_bin fromFirst (rising.trans toLast)
    obtain ⟨_, high, -, highFound⟩ := Edges.exists_edges_of_bin (fromFirst.trans rising) toLast
    refine ⟨low, high, .active ?first ?last lowFound highFound, ?_⟩
    case first =>
      exact
        ⟨Axis.isActive_iff.mpr ⟨le_rfl, rising⟩, fun _ active => (Axis.isActive_iff.mp active).1⟩
    case last =>
      exact
        ⟨Axis.isActive_iff.mpr ⟨rising, le_rfl⟩, fun _ active => (Axis.isActive_iff.mp active).2⟩
    rw [footer]
    simp only [lowFound, highFound, Option.getD_some]

end Terminal

end PlotBoard
