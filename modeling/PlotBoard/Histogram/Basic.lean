import PlotBoard.Axis.Basic
import PlotBoard.Histogram.Odometer

namespace PlotBoard

/-!
# Histograms

A histogram holds one content for every cell of the grid of its axes and counts
the fills. Filling and writing go to cells whatever is active; the integral, the
statistics and projections walk through the active cells only, the first axis
running fastest.
-/

/-- A dense histogram with coordinates in `K` and contents in `C`. -/
structure Histogram (K C : Type) [Scalar K] where
  name : String
  title : String
  axes : List (Axis K)
  contents : Array C
  entries : Nat
  axes_ne_nil : axes ≠ []
  size_contents : contents.size = Grid.size (axes.map Axis.bins)
  size_fits : Grid.size (axes.map Axis.bins) < UInt64.size

variable {K C : Type} [Scalar K]

namespace Histogram

/-- Why a histogram is not made or not changed. -/
inductive Fault where
  | noAxes (name : String)
  | tooManyCells (name : String)
  | wrongArity (name : String) (dimensions given : Nat)
  | outside (name : String) (bins : List Nat)

namespace Fault

/-- A list of bins as it is shown. -/
def binList (bins : List Nat) : String :=
  "[" ++ ", ".intercalate (bins.map toString) ++ "]"

/-- A name between quotation marks. -/
def quoted (name : String) : String :=
  "`" ++ name ++ "`"

/-- The text shown for a fault. -/
def message : Fault → String
  | .noAxes name => s!"histogram {quoted name} needs at least one axis"
  | .tooManyCells name => s!"histogram {quoted name} has too many cells"
  | .wrongArity name dimensions given =>
      s!"{quoted name} has {dimensions} axes, got {given} coordinates"
  | .outside name bins => s!"bin {binList bins} is outside {quoted name}"

/-- Every fault is reported as an invalid histogram. -/
def toError (fault : Fault) : Error :=
  .invalidHistogram fault.message

end Fault

/-- The number of axes. -/
def dimensions (histogram : Histogram K C) : Nat :=
  histogram.axes.length

/-- The number of bins along each axis. -/
def shape (histogram : Histogram K C) : List Nat :=
  histogram.axes.map Axis.bins

/-- The first axis. -/
def primaryAxis (histogram : Histogram K C) : Axis K :=
  histogram.axes.head histogram.axes_ne_nil

/-- The histogram under another title. -/
def withTitle (histogram : Histogram K C) (title : String) : Histogram K C :=
  { histogram with title := title }

/-- The histogram with another number of fills. -/
def withEntries (histogram : Histogram K C) (entries : Nat) : Histogram K C :=
  { histogram with entries := entries }

/-- The cell in which a list of coordinates falls; its bins may lie outside the grid. -/
def binsOf (histogram : Histogram K C) (coordinates : List K) : List Nat :=
  histogram.axes.zipWith Axis.findBin coordinates

/-- The histogram with the content of one cell changed; bins outside the grid change nothing. -/
def modifyCell
    (histogram : Histogram K C)
    (bins : List Nat)
    (change : C → C) :
    Histogram K C :=
  match Grid.address? histogram.shape bins with
  | some index =>
      { histogram with
        contents := histogram.contents.modify index change
        size_contents := by
          rw [Array.size_modify]
          exact histogram.size_contents }
  | none => histogram

theorem map_bins_modify
    (axes : List (Axis K))
    (index : Nat)
    {change : Axis K → Axis K}
    (keepsBins : ∀ axis, (change axis).bins = axis.bins) :
    (axes.modify index change).map Axis.bins = axes.map Axis.bins := by
  induction axes generalizing index with
  | nil => simp
  | cons axis rest inductionHypothesis =>
      cases index with
      | zero => simp [keepsBins]
      | succ index => simp [inductionHypothesis]

/-- The histogram with one axis changed in all but its bins; a bad index changes nothing. -/
def modifyAxis
    (histogram : Histogram K C)
    (index : Nat)
    (change : Axis K → Axis K)
    (keepsBins : ∀ axis, (change axis).bins = axis.bins) :
    Histogram K C :=
  have sameShape := map_bins_modify histogram.axes index keepsBins
  { histogram with
    axes := histogram.axes.modify index change
    axes_ne_nil := by
      intro empty
      have sameLength := congrArg List.length sameShape
      rw [empty] at sameLength
      exact histogram.axes_ne_nil (by simpa using sameLength.symm)
    size_contents := by
      rw [sameShape]
      exact histogram.size_contents
    size_fits := by
      rw [sameShape]
      exact histogram.size_fits }

/-- The histogram with every axis changed in all but its bins. -/
def mapAxes
    (histogram : Histogram K C)
    (change : Axis K → Axis K)
    (keepsBins : ∀ axis, (change axis).bins = axis.bins) :
    Histogram K C :=
  have sameShape : (histogram.axes.map change).map Axis.bins = histogram.axes.map Axis.bins := by
    simp [keepsBins]
  { histogram with
    axes := histogram.axes.map change
    axes_ne_nil := by
      simpa using histogram.axes_ne_nil
    size_contents := by
      rw [sameShape]
      exact histogram.size_contents
    size_fits := by
      rw [sameShape]
      exact histogram.size_fits }

/-- The histogram with exactly the bins from `first` to `last` active on one axis. -/
def setRange (histogram : Histogram K C) (index first last : Nat) : Histogram K C :=
  histogram.modifyAxis index (·.setRange first last) fun _ => rfl

/-- All cells, the first axis running fastest. -/
def cells (histogram : Histogram K C) : List (List Nat) :=
  Grid.tuples (histogram.axes.map fun axis => List.range' 1 axis.bins)

/-- The cells that are active on every axis, the first axis running fastest. -/
def activeCells (histogram : Histogram K C) : List (List Nat) :=
  Grid.tuples (histogram.axes.map Axis.activeBins)

/-- The first and the last active bin along each axis. -/
def activeSpans (histogram : Histogram K C) : List (Nat × Nat) :=
  histogram.axes.map Axis.range

variable [Scalar C]

/-- A histogram without fills whose contents are all zero. -/
def create (name : String) (axes : List (Axis K)) : Except Fault (Histogram K C) :=
  if nonempty : axes ≠ [] then
    if fits : Grid.size (axes.map Axis.bins) < UInt64.size then
      .ok {
        name := name
        title := ""
        axes := axes
        contents := Array.replicate (Grid.size (axes.map Axis.bins)) ((0 : Nat) : C)
        entries := 0
        axes_ne_nil := nonempty
        size_contents := Array.size_replicate
        size_fits := fits
      }
    else
      .error (.tooManyCells name)
  else
    .error (.noAxes name)

/-- The content of a cell; a list of bins that is no cell has content zero. -/
def content (histogram : Histogram K C) (bins : List Nat) : C :=
  match found : Grid.address? histogram.shape bins with
  | some index =>
      have inside : index < histogram.contents.size := by
        rw [histogram.size_contents]
        exact Grid.lt_size_of_address? found
      histogram.contents[index]
  | none => ((0 : Nat) : C)

/-- A cell visited with its content; bins that are no cell are passed over. -/
def visitCell
    {S : Type}
    (histogram : Histogram K C)
    (visit : S → List Nat → C → S)
    (state : S)
    (bins : List Nat) :
    S :=
  if (Grid.address? histogram.shape bins).isSome then
    visit state bins (histogram.content bins)
  else
    state

/--
The state after every active cell has been visited with its content. Nothing is
visited when an axis has no active bin.
-/
def foldActive
    {S : Type}
    (histogram : Histogram K C)
    (visit : S → List Nat → C → S)
    (state : S) :
    S :=
  if histogram.axes.any fun axis => axis.activeCount = 0 then
    state
  else
    Grid.walk histogram.activeSpans (histogram.visitCell visit) state
      (histogram.activeSpans.map Prod.fst)

/-- The histogram with an amount added to the content of a cell. -/
def addToCell
    (histogram : Histogram K C)
    (bins : List Nat)
    (amount : C) :
    Histogram K C :=
  histogram.modifyCell bins (· + amount)

/--
One more fill. Its weight goes to the cell of the coordinates, if they lie
inside the grid; a wrong number of coordinates changes nothing.
-/
def fill
    (histogram : Histogram K C)
    (coordinates : List K)
    (weight : C) :
    Except Fault (Histogram K C) :=
  if coordinates.length = histogram.dimensions then
    .ok ((histogram.withEntries (histogram.entries + 1)).addToCell
      (histogram.binsOf coordinates) weight)
  else
    .error (.wrongArity histogram.name histogram.dimensions coordinates.length)

/-- The histogram with another content in one cell. -/
def setContent
    (histogram : Histogram K C)
    (bins : List Nat)
    (value : C) :
    Except Fault (Histogram K C) :=
  if bins.length = histogram.dimensions then
    if (Grid.address? histogram.shape bins).isSome then
      .ok (histogram.modifyCell bins fun _ => value)
    else
      .error (.outside histogram.name bins)
  else
    .error (.wrongArity histogram.name histogram.dimensions bins.length)

/-- The sum of the active contents. -/
def integral (histogram : Histogram K C) : C :=
  histogram.foldActive (fun sum _ content => sum + content) ((0 : Nat) : C)

end Histogram

end PlotBoard
